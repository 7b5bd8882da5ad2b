import Mathlib.Data.List.Basic

/-!
# The including side of an S2 inclusion

`zwave_s2_inclusion_controller.c` with the part of `s2_inclusion.c` that an including
controller runs: its events, its tables, its checks of received frames and its actions.  The
states and rows of a joining node, which an including controller never enters, and the
cryptography are left out.  A decision of the user that comes while an event is handled is
taken for one that comes right after it.
-/

namespace S2Inclusion

def keyClassS0 : UInt8 := 0x80

def keyClassS2Unauthenticated : UInt8 := 0x01

def keyClassS2Authenticated : UInt8 := 0x02

def keyClassS2Access : UInt8 := 0x04

def keyClassS2AuthenticatedLr : UInt8 := 0x08

def keyClassS2AccessLr : UInt8 := 0x10

def security2KeyMask : UInt8 := 0x87

/-- `SECURITY_2_SCHEME_1_SUPPORT`, which is also the mask of all schemes. -/
def security2Scheme1Support : UInt8 := 0x02

/-- `KEX_REPORT_CURVE_25519`, which is also the mask of all curves. -/
def kexReportCurve25519 : UInt8 := 0x01

def security2EchoOn : UInt8 := 0x01

def security2CsaOn : UInt8 := 0x02

def security2KexRepNlsMask : UInt8 := 0x04

def security2KeyReqComplete : UInt8 := 0x01

def security2KeyVerified : UInt8 := 0x02

def security2TransferEnd : UInt8 := 0x0C

/-- `S2_INCLUSION_COMMAND_OFFSET`, the command of a KEX Get. -/
def s2InclusionCommandOffset : UInt8 := 0x04

def nonSecure : UInt8 := 0xFF

def tempKeySecure : UInt8 := 5

def networkKeySecure : UInt8 := 6

def queueFull : UInt8 := 0xFF

def maxRetryCount : UInt8 := 0x03

def dskSsaChallengeLength : Nat := 2

def kexFailKexKey : UInt8 := 0x01

def kexFailKexScheme : UInt8 := 0x02

def kexFailKexCurves : UInt8 := 0x03

def kexFailDecrypt : UInt8 := 0x05

def kexFailCancel : UInt8 := 0x06

def kexFailAuth : UInt8 := 0x07

def kexFailKeyGet : UInt8 := 0x08

def kexFailKeyVerify : UInt8 := 0x09

def isLrNode (nodeId : Nat) : Bool := decide (256 ≤ nodeId) && decide (nodeId ≤ 4000)

/-- The values of `s2_inclusion_state_t` an including controller enters. -/
inductive InclusionState where
  | idle
  | awaitingKexReport
  | awaitingKeyUserAccept
  | awaitingPubKeyB
  | awaitingUserAccept
  | awaitingEchoKexSet
  | awaitingNetKeyGet
  | awaitingNetKeyVerify
  | awaitingTransferEnd
  | errorSent
  deriving DecidableEq

/-- The values of `s2_inclusion_event_t` that occur here, with the command of a Commands
Supported Get, which passes the check of the commands. -/
inductive InclusionEvent where
  | kexGetRecv
  | kexReportRecv
  | echoKexReportRecv
  | kexSetRecv
  | echoKexSetRecv
  | inclusionErrorRecv
  | pubKeyRecvA
  | pubKeyRecvB
  | netKeyGetRecv
  | netKeyReportRecv
  | netKeyVerifyRecv
  | netKeyVerifyFinalRecv
  | transferEndRecv
  | sendFinalTransferEnd
  | commandsSupportedGet
  | includingStart
  | includingAccept
  | includingReject
  | includingDecryptFailed
  | inclusionRetry
  | inclusionTimeout
  | inclusionError
  | inclusionErrorSent
  | inclusionSendDone
  | inclusionSendFailed
  deriving DecidableEq

/-- `s2_action_t` and `s2_action_controller_t`. -/
inductive TransitionAction where
  | noAction
  | abortAction
  | remoteErrorAction
  | resendFrameAction
  | resendDataAction
  | sendKexGetAction
  | kexRepRecvAction
  | sendKexSetAction
  | sendPubKeyAAction
  | doEcdhCalcAAction
  | sendEchoKexReportAction
  | sendErrorCancelAction
  | sendErrorDecryptAction
  | sendNetKeyReportAction
  | sendTransferEndAction
  | inclusionCompleteAction
  | checkNoKeys
  deriving DecidableEq

/-- `s2_transition_t`.  A missing state, event or new state is `S2_INC_STATE_ANY` or
`S2_EVT_ANY`. -/
structure Transition where
  state : Option InclusionState
  event : Option InclusionEvent
  action : TransitionAction
  newState : Option InclusionState

def s2TransitionTableController : List Transition :=
  [⟨some .idle, some .includingStart, .sendKexGetAction, some .awaitingKexReport⟩,
    ⟨some .awaitingKexReport, some .kexReportRecv, .kexRepRecvAction, some .awaitingKeyUserAccept⟩,
    ⟨some .awaitingKexReport, some .inclusionRetry, .resendFrameAction, none⟩,
    ⟨some .awaitingKeyUserAccept, some .includingAccept, .sendKexSetAction, some .awaitingPubKeyB⟩,
    ⟨some .awaitingKeyUserAccept, some .includingReject, .sendErrorCancelAction, some .errorSent⟩,
    ⟨some .awaitingKeyUserAccept, some .kexReportRecv, .noAction, none⟩,
    ⟨some .awaitingPubKeyB, some .kexReportRecv, .noAction, none⟩,
    ⟨some .awaitingPubKeyB, some .inclusionRetry, .resendFrameAction, none⟩,
    ⟨some .awaitingPubKeyB, some .pubKeyRecvB, .sendPubKeyAAction, some .awaitingUserAccept⟩,
    ⟨some .awaitingUserAccept, some .includingAccept, .doEcdhCalcAAction, some .awaitingEchoKexSet⟩,
    ⟨some .awaitingUserAccept, some .includingReject, .sendErrorCancelAction, some .errorSent⟩,
    ⟨some .awaitingUserAccept, some .inclusionRetry, .resendFrameAction, none⟩,
    ⟨some .awaitingUserAccept, some .kexReportRecv, .noAction, none⟩,
    ⟨some .awaitingUserAccept, some .pubKeyRecvB, .noAction, none⟩,
    ⟨some .awaitingEchoKexSet, some .echoKexSetRecv, .sendEchoKexReportAction,
      some .awaitingNetKeyGet⟩,
    ⟨some .awaitingEchoKexSet, some .inclusionRetry, .resendFrameAction, none⟩,
    ⟨some .awaitingEchoKexSet, some .includingDecryptFailed, .sendErrorDecryptAction,
      some .errorSent⟩,
    ⟨some .awaitingEchoKexSet, some .kexReportRecv, .noAction, none⟩,
    ⟨some .awaitingEchoKexSet, some .pubKeyRecvB, .noAction, none⟩,
    ⟨some .awaitingNetKeyGet, some .netKeyGetRecv, .sendNetKeyReportAction,
      some .awaitingNetKeyVerify⟩,
    ⟨some .awaitingNetKeyGet, some .sendFinalTransferEnd, .checkNoKeys, some .idle⟩,
    ⟨some .awaitingNetKeyGet, some .inclusionRetry, .resendDataAction, none⟩,
    ⟨some .awaitingNetKeyGet, some .kexReportRecv, .noAction, none⟩,
    ⟨some .awaitingNetKeyGet, some .pubKeyRecvB, .noAction, none⟩,
    ⟨some .awaitingNetKeyGet, some .echoKexSetRecv, .noAction, none⟩,
    ⟨some .awaitingNetKeyGet, some .netKeyVerifyRecv, .noAction, none⟩,
    ⟨some .awaitingNetKeyVerify, some .netKeyVerifyFinalRecv, .sendTransferEndAction,
      some .awaitingTransferEnd⟩,
    ⟨some .awaitingNetKeyVerify, some .netKeyVerifyRecv, .sendTransferEndAction,
      some .awaitingNetKeyGet⟩,
    ⟨some .awaitingNetKeyVerify, some .inclusionRetry, .resendDataAction, none⟩,
    ⟨some .awaitingNetKeyVerify, some .kexReportRecv, .noAction, none⟩,
    ⟨some .awaitingNetKeyVerify, some .pubKeyRecvB, .noAction, none⟩,
    ⟨some .awaitingNetKeyVerify, some .echoKexSetRecv, .noAction, none⟩,
    ⟨some .awaitingNetKeyVerify, some .netKeyGetRecv, .noAction, none⟩,
    ⟨some .awaitingTransferEnd, some .transferEndRecv, .inclusionCompleteAction, some .idle⟩,
    ⟨some .awaitingTransferEnd, some .inclusionRetry, .resendDataAction, none⟩,
    ⟨some .awaitingTransferEnd, some .kexReportRecv, .noAction, none⟩,
    ⟨some .awaitingTransferEnd, some .pubKeyRecvB, .noAction, none⟩,
    ⟨some .awaitingTransferEnd, some .echoKexSetRecv, .noAction, none⟩,
    ⟨some .awaitingTransferEnd, some .netKeyGetRecv, .noAction, none⟩,
    ⟨some .awaitingTransferEnd, some .netKeyVerifyRecv, .noAction, none⟩,
    ⟨some .awaitingTransferEnd, some .netKeyVerifyFinalRecv, .noAction, none⟩]

/-- The rows of `s2_transition_table` that can match here. -/
def s2TransitionTable : List Transition :=
  [⟨some .errorSent, some .inclusionSendDone, .abortAction, some .idle⟩,
    ⟨some .idle, some .inclusionTimeout, .noAction, some .idle⟩,
    ⟨some .idle, none, .noAction, some .idle⟩,
    ⟨none, some .inclusionTimeout, .abortAction, some .idle⟩,
    ⟨none, some .inclusionErrorSent, .noAction, some .errorSent⟩,
    ⟨none, some .inclusionErrorRecv, .remoteErrorAction, some .idle⟩,
    ⟨none, some .inclusionError, .abortAction, some .idle⟩,
    ⟨none, some .includingDecryptFailed, .noAction, none⟩,
    ⟨none, some .inclusionSendDone, .noAction, none⟩,
    ⟨none, some .inclusionSendFailed, .abortAction, some .idle⟩,
    ⟨none, none, .abortAction, some .idle⟩]

/-- The test of `process_s2_inclusion_event` whether a row is for an event in a state. -/
def Transition.matches (row : Transition) (state : InclusionState) (event : InclusionEvent) :
    Bool :=
  (row.state == some state || row.state == none) && (row.event == some event || row.event == none)

/-- The row `process_event` finds. -/
def findTransition (state : InclusionState) (event : InclusionEvent) : Option Transition :=
  (s2TransitionTableController.find? (·.matches state event)).or
    (s2TransitionTable.find? (·.matches state event))

/-- What `inclusion_buf` holds. -/
inductive OutFrame where
  | kexGet
  | kexSet (flags scheme curve keys : UInt8)
  | publicKeyReport (hidden : Bool)
  | kexReport (payload : List UInt8)
  | networkKeyReport (grantKey : UInt8) (key : Option UInt8)
  | transferEnd (flags : UInt8)
  | kexFail (failType : UInt8)
  deriving DecidableEq

/-- What the event handler is told. -/
inductive S2Event where
  | kexReport (securityKeys : UInt8) (csa nlsAvailable : Bool)
  | publicKeyChallenge (grantedKeys : UInt8) (dskLength : Nat)
  | inclusionComplete (exchangedKeys : UInt8)
  | inclusionFailed (kexFailType : UInt8)
  deriving DecidableEq

/-- What happened in an inclusion: libS2 took a Network Key Report for a class, or a Network
Key Verify was received that the key of a class decrypted. -/
inductive Entry where
  | reportSent (keyClass : UInt8)
  | verifyReceived (keyClass : UInt8)
  deriving DecidableEq

/-- A Network Key Report: the class it names, the class whose network key is in it, the kind
of peer, and the Keys field of the KEX Set that was sent. -/
structure Report where
  grantKey : UInt8
  key : Option UInt8
  peerIsLr : Bool
  kexSetKeys : Option UInt8
  deriving DecidableEq

inductive InclusionMode where
  | csa
  | ssa
  deriving DecidableEq

/-- The fields of `struct S2` an inclusion reads, the retry counter, the class of the network
key that is still in `inclusion_buf`, and the record: the Keys field of the KEX Set that libS2
took and what happened (the newest first) in this inclusion, all reports and all events. -/
structure Context where
  inclusionState : InclusionState
  peerNode : Nat
  peerClassId : UInt8
  inclusionMode : InclusionMode
  kexFailCode : UInt8
  schemeSupport : UInt8
  curveSupport : UInt8
  kexReportEchoPayload : List UInt8
  keyExchange : UInt8
  keyGranted : UInt8
  keyRequested : UInt8
  buf : List UInt8
  inclusionBuf : OutFrame
  bufferKey : Option UInt8
  retryCounter : UInt8
  kexSetKeys : Option UInt8
  history : List Entry
  reports : List Report
  events : List (S2Event × List Entry)

/-- A row of `m_frame_rules`. -/
structure FrameRule where
  length : Nat
  encryptionSupport : UInt8
  encryptionRuleA : UInt8
  encryptionRuleB : UInt8

/-- Whether libS2 takes a frame of this step, the keys of the keystore, and what stands in
memory behind the last row of `m_frame_rules`, which the check of the commands lets through. -/
structure Answers where
  taken : Bool
  assignedKeys : UInt8
  ruleBeyond : FrameRule

namespace Context

variable (ctx : Context)

/-- A byte of the received frame. -/
def byte (position : Nat) : UInt8 := ctx.buf.getD position 0

/-- The event handler is called. -/
def notify (event : S2Event) : Context :=
  { ctx with events := ctx.events ++ [(event, ctx.history)] }

/-- libS2 takes the frame in the buffer. -/
def frameTaken : Context :=
  match ctx.inclusionBuf with
  | .kexSet _ _ _ keys => { ctx with kexSetKeys := some keys }
  | .networkKeyReport grantKey _ => { ctx with history := .reportSent grantKey :: ctx.history }
  | _ => ctx

/-- `s2_inclusion_send_frame`, and in the same way `s2_inclusion_send_data`. -/
def s2InclusionSend (taken : Bool) : Context :=
  if taken then { ctx.frameTaken with retryCounter := ctx.retryCounter - 1 }
  else { ctx with retryCounter := queueFull }

/-- A frame is put in the buffer and sent with all retries. -/
def sendFirst (frame : OutFrame) (taken : Bool) : Context :=
  { ctx with inclusionBuf := frame, retryCounter := maxRetryCount }.s2InclusionSend taken

/-- `inclusion_failed_frame_send`, which is only called for frames that are not secure. -/
def inclusionFailedFrameSend (error : UInt8) (taken : Bool) : Context :=
  { ctx with kexFailCode := error }.sendFirst (.kexFail error) taken

def inclusionFailedEvtPush (failType : UInt8) : Context :=
  ctx.notify (.inclusionFailed failType)

def validateReportedSchemes (taken : Bool) : Bool × Context :=
  if ctx.byte 3 &&& ~~~security2Scheme1Support ≠ 0 then
    (false, ctx.inclusionFailedFrameSend kexFailKexScheme taken)
  else
    let supported := { ctx with schemeSupport := ctx.byte 3 }
    if ctx.byte 3 &&& security2Scheme1Support ≠ 0 then (true, supported)
    else (false, supported.inclusionFailedFrameSend kexFailKexScheme taken)

def validateReportedCurves (taken : Bool) : Bool × Context :=
  if ctx.byte 4 &&& ~~~kexReportCurve25519 ≠ 0 then
    (false, ctx.inclusionFailedFrameSend kexFailKexCurves taken)
  else
    let supported := { ctx with curveSupport := ctx.byte 4 }
    if ctx.byte 4 &&& kexReportCurve25519 ≠ 0 then (true, supported)
    else (false, supported.inclusionFailedFrameSend kexFailKexCurves taken)

def validateReportedKeys (taken : Bool) : Bool × Context :=
  let keyExchange :=
    if isLrNode ctx.peerNode then
      ctx.byte 5 &&& ~~~(keyClassS2Unauthenticated ||| keyClassS0)
    else ctx.byte 5
  let keyGranted := keyExchange &&& security2KeyMask
  let reported := { ctx with keyExchange := keyExchange, keyGranted := keyGranted }
  if keyGranted ≠ 0 then (true, reported)
  else (false, reported.inclusionFailedFrameSend kexFailKexKey taken)

/-- Whether a request is for one class that is granted. -/
def isRequestable (requested : UInt8) : Bool :=
  requested &&& (requested - 1) == 0 && requested &&& ctx.keyGranted != 0

def validateRequestedKey (taken : Bool) : Bool × Context :=
  if ctx.isRequestable (ctx.byte 2) then
    (true, { ctx with keyRequested := ctx.byte 2 })
  else
    (false, { ctx with keyRequested := 0 }.inclusionFailedFrameSend kexFailKeyGet taken)

/-- `validate_echo_kex_set`.  The conditional of the source binds so that its last part is true
exactly when the mode of the echo is that of the inclusion. -/
def validateEchoKexSet (taken : Bool) : Bool × Context :=
  if ctx.schemeSupport = ctx.byte 3 ∧ ctx.curveSupport = ctx.byte 4 ∧
      ctx.keyGranted = ctx.byte 5 ∧
      (ctx.inclusionMode = .csa ↔ ctx.byte 2 &&& security2CsaOn = security2CsaOn) then
    (true, ctx)
  else (false, ctx.inclusionFailedFrameSend kexFailAuth taken)

def s2SendKexGet (taken : Bool) : Context := ctx.sendFirst .kexGet taken

/-- `s2_kex_rep_recv`, with the event it raises. -/
def s2KexRepRecv (taken : Bool) : Context × Option InclusionEvent :=
  let schemes := ctx.validateReportedSchemes taken
  if schemes.1 = false then (schemes.2, some .inclusionErrorSent)
  else
    let curves := schemes.2.validateReportedCurves taken
    if curves.1 = false then (curves.2, some .inclusionErrorSent)
    else
      let keys := curves.2.validateReportedKeys taken
      if keys.1 = false then (keys.2, some .inclusionErrorSent)
      else
        ({ keys.2 with kexReportEchoPayload := (ctx.buf.drop 2).take 4 }.notify
          (.kexReport keys.2.keyGranted (ctx.byte 2 &&& security2CsaOn != 0)
            (ctx.byte 2 &&& security2KexRepNlsMask != 0)), none)

def s2SendKexSet (taken : Bool) : Context :=
  { ctx with bufferKey := none }.sendFirst
    (.kexSet (if ctx.inclusionMode = InclusionMode.csa then security2CsaOn else 0)
      security2Scheme1Support kexReportCurve25519 ctx.keyGranted) taken

def s2SendPubKeyA (taken : Bool) : Context :=
  let dskLength :=
    if ctx.keyGranted &&& (keyClassS2Authenticated ||| keyClassS2Access) ≠ 0 ∧
        ctx.inclusionMode = .ssa then dskSsaChallengeLength
    else 0
  { ctx.notify (.publicKeyChallenge ctx.keyGranted dskLength) with
    bufferKey := none }.sendFirst
    (.publicKeyReport (ctx.inclusionMode == InclusionMode.csa &&
      ctx.keyGranted &&& ~~~(keyClassS0 ||| keyClassS2Unauthenticated) != 0)) taken

/-- `s2_send_echo_kex_report`, with the event it raises. -/
def s2SendEchoKexReport (taken : Bool) : Context × Option InclusionEvent :=
  let echo := ctx.validateEchoKexSet taken
  if echo.1 = false then (echo.2, some .inclusionErrorSent)
  else
    ({ echo.2 with
        keyExchange := 0
        peerClassId := tempKeySecure
        bufferKey := none }.sendFirst
      (.kexReport (echo.2.kexReportEchoPayload.modifyHead (· ||| security2EchoOn))) taken, none)

def translateKeyslotToReadForLr (keySlot : UInt8) (peerNode : Nat) : UInt8 :=
  if isLrNode peerNode then
    if keySlot = keyClassS2Authenticated then keyClassS2AuthenticatedLr
    else if keySlot = keyClassS2Access then keyClassS2AccessLr
    else keySlot
  else keySlot

/-- `keystore_network_key_read` into the buffer: a key that is not assigned leaves the buffer
as it is. -/
def keystoreNetworkKeyRead (assignedKeys keySlot : UInt8) (bufferKey : Option UInt8) :
    Option UInt8 :=
  if keySlot &&& assignedKeys = 0 then bufferKey else some keySlot

/-- `s2_send_net_key_report`, with the event it raises. -/
def s2SendNetKeyReport (answers : Answers) : Context × Option InclusionEvent :=
  let requested := ctx.validateRequestedKey answers.taken
  if requested.1 = false then (requested.2, some .inclusionErrorSent)
  else
    let key := keystoreNetworkKeyRead answers.assignedKeys
      (translateKeyslotToReadForLr (ctx.byte 2) ctx.peerNode) ctx.bufferKey
    ({ requested.2 with
        keyExchange := ctx.keyExchange ||| ctx.byte 2
        bufferKey := key
        peerClassId := tempKeySecure
        reports := ctx.reports ++
          [Report.mk (ctx.byte 2) key (isLrNode ctx.peerNode) ctx.kexSetKeys] }.sendFirst
      (.networkKeyReport (ctx.byte 2) key) answers.taken, none)

def s2SendTransferEnd (taken : Bool) : Context :=
  { ctx with peerClassId := tempKeySecure }.sendFirst (.transferEnd security2KeyVerified) taken

def s2InclusionComplete (taken : Bool) : Context :=
  if ctx.byte 1 = security2TransferEnd ∧
      ctx.byte 2 &&& (security2KeyReqComplete ||| security2KeyVerified) =
        security2KeyReqComplete then
    ctx.notify (.inclusionComplete ctx.keyExchange)
  else
    (ctx.inclusionFailedFrameSend kexFailKeyVerify taken).inclusionFailedEvtPush
      kexFailKeyVerify

def s2CheckNoKeys (taken : Bool) : Context :=
  if ctx.keyGranted ≠ 0 then ctx.inclusionFailedEvtPush ctx.kexFailCode
  else ctx.s2InclusionComplete taken

/-- `execute_action` with `execute_action_controller`, and the event an action raises at its
end. -/
def executeAction (answers : Answers) : TransitionAction -> Context × Option InclusionEvent
  | .noAction => (ctx, none)
  | .abortAction => (ctx.inclusionFailedEvtPush ctx.kexFailCode, none)
  | .remoteErrorAction => (ctx.inclusionFailedEvtPush (ctx.byte 2), none)
  | .resendFrameAction => (ctx.s2InclusionSend answers.taken, none)
  | .resendDataAction => (ctx.s2InclusionSend answers.taken, none)
  | .sendKexGetAction => (ctx.s2SendKexGet answers.taken, none)
  | .kexRepRecvAction => ctx.s2KexRepRecv answers.taken
  | .sendKexSetAction => (ctx.s2SendKexSet answers.taken, none)
  | .sendPubKeyAAction => (ctx.s2SendPubKeyA answers.taken, none)
  | .doEcdhCalcAAction => (ctx, none)
  | .sendEchoKexReportAction => ctx.s2SendEchoKexReport answers.taken
  | .sendErrorCancelAction => (ctx.inclusionFailedFrameSend kexFailCancel answers.taken, none)
  | .sendErrorDecryptAction => (ctx.inclusionFailedFrameSend kexFailDecrypt answers.taken, none)
  | .sendNetKeyReportAction => ctx.s2SendNetKeyReport answers
  | .sendTransferEndAction => (ctx.s2SendTransferEnd answers.taken, none)
  | .inclusionCompleteAction => (ctx.s2InclusionComplete answers.taken, none)
  | .checkNoKeys => (ctx.s2CheckNoKeys answers.taken, none)

/-- `process_event` without what the action raises. -/
def processEventOnce (answers : Answers) (event : InclusionEvent) :
    Context × Option InclusionEvent :=
  match findTransition ctx.inclusionState event with
  | some row =>
      { ctx with
        inclusionState := row.newState.getD ctx.inclusionState }.executeAction answers
          row.action
  | none => (ctx, none)

/-- `process_event`.  The only event an action raises is that an error was sent, whose row has
no action. -/
def processEvent (answers : Answers) (event : InclusionEvent) : Context :=
  let processed := ctx.processEventOnce answers event
  match processed.2 with
  | none => processed.1
  | some raised => (processed.1.processEventOnce answers raised).1

/-- `m_frame_rules`. -/
def frameRules : List FrameRule :=
  [⟨2, 0, nonSecure, nonSecure⟩, ⟨6, 2, nonSecure, tempKeySecure⟩,
    ⟨6, 2, nonSecure, tempKeySecure⟩, ⟨3, 1, nonSecure, tempKeySecure⟩,
    ⟨35, 0, nonSecure, nonSecure⟩, ⟨3, 0, tempKeySecure, tempKeySecure⟩,
    ⟨19, 0, tempKeySecure, tempKeySecure⟩, ⟨2, 0, networkKeySecure, networkKeySecure⟩,
    ⟨3, 0, tempKeySecure, tempKeySecure⟩]

/-- `m_key_slot_key_class_pair`. -/
def keySlotKeyClassPair : List UInt8 :=
  [keyClassS2Unauthenticated, keyClassS2Authenticated, keyClassS2Access, keyClassS2Authenticated,
    keyClassS2Access, 0x00, keyClassS0]

/-- A frame for the inclusion, with the key that decrypted it. -/
structure ReceivedFrame where
  rNode : Nat
  classId : UInt8
  isMulticast : Bool
  bytes : List UInt8

/-- What `s2_inclusion_post_event_internal` makes of a frame. -/
inductive Reception where
  | ignored
  | tooShort
  | notAuthenticated
  | event (event : InclusionEvent)
  deriving DecidableEq

/-- The rule the encryption of a frame has to follow. -/
def cryptRule (rule : FrameRule) : UInt8 :=
  if rule.encryptionSupport = 2 ∧ ctx.byte 2 &&& security2EchoOn ≠ 0 then rule.encryptionRuleB
  else rule.encryptionRuleA

/-- A frame is encrypted as its rule asks for. -/
def isAuthenticated (rule : FrameRule) : Bool :=
  if ctx.cryptRule rule = networkKeySecure then
    match keySlotKeyClassPair[ctx.peerClassId.toNat]? with
    | none => false
    | some keyClass => ctx.keyRequested == keyClass || ctx.keyExchange &&& keyClass != 0
  else
    ctx.cryptRule rule == ctx.peerClassId ||
      (rule.encryptionSupport == 1 && ctx.peerClassId == rule.encryptionRuleB)

/-- The event of a command. -/
def commandEvent : InclusionEvent :=
  if ctx.byte 1 = 0x04 then .kexGetRecv
  else if ctx.byte 1 = 0x05 then
    if ctx.byte 2 &&& security2EchoOn ≠ 0 then .echoKexReportRecv else .kexReportRecv
  else if ctx.byte 1 = 0x06 then
    if ctx.byte 2 &&& security2EchoOn ≠ 0 then .echoKexSetRecv else .kexSetRecv
  else if ctx.byte 1 = 0x07 then .inclusionErrorRecv
  else if ctx.byte 1 = 0x08 then
    if ctx.byte 2 &&& 0x01 ≠ 0 then .pubKeyRecvA else .pubKeyRecvB
  else if ctx.byte 1 = 0x09 then .netKeyGetRecv
  else if ctx.byte 1 = 0x0A then .netKeyReportRecv
  else if ctx.byte 1 = 0x0B then
    if ctx.keyExchange = ctx.keyGranted then .netKeyVerifyFinalRecv
    else .netKeyVerifyRecv
  else if ctx.byte 1 = security2TransferEnd then
    if (0 - ctx.keyExchange) &&& ctx.keyGranted ≠ 0 then .transferEndRecv
    else .sendFinalTransferEnd
  else .commandsSupportedGet

/-- The checks of `s2_inclusion_post_event_internal` up to its event. -/
def reception (answers : Answers) : Reception :=
  let index := ctx.byte 1 - s2InclusionCommandOffset
  if 9 < index ∨ ctx.inclusionState = .idle then .ignored
  else
    let rule := frameRules[index.toNat]?.getD answers.ruleBeyond
    if ctx.buf.length < rule.length then .tooShort
    else if ctx.isAuthenticated rule = false then .notAuthenticated
    else .event ctx.commandEvent

/-- The class of the key that decrypted a frame. -/
def decryptingClass : UInt8 := keySlotKeyClassPair.getD ctx.peerClassId.toNat 0

/-- A Network Key Verify is entered into the record. -/
def recordVerify (event : InclusionEvent) : Context :=
  if event = .netKeyVerifyRecv ∨ event = .netKeyVerifyFinalRecv then
    { ctx with history := .verifyReceived ctx.decryptingClass :: ctx.history }
  else ctx

def s2InclusionPostEventInternal (answers : Answers) : Context :=
  match ctx.reception answers with
  | .ignored => ctx
  | .tooShort => ctx.processEvent answers .inclusionError
  | .notAuthenticated =>
      (ctx.inclusionFailedFrameSend kexFailAuth answers.taken).processEvent answers
        .inclusionErrorSent
  | .event event => (ctx.recordVerify event).processEvent answers event

/-- The context with a frame of the peer. -/
def withFrame (frame : ReceivedFrame) : Context :=
  { ctx with buf := frame.bytes, peerClassId := frame.classId }

def s2InclusionPostEvent (frame : ReceivedFrame) (answers : Answers) : Context :=
  if frame.isMulticast = false ∧ ctx.peerNode = frame.rNode then
    (ctx.withFrame frame).s2InclusionPostEventInternal answers
  else ctx

def s2InclusionIncludingStart (rNode : Nat) (answers : Answers) : Context :=
  if ctx.inclusionState = .idle then
    { ctx with
      peerNode := rNode
      inclusionMode := .ssa
      kexFailCode := 0
      kexSetKeys := none
      history := [] }.processEvent answers .includingStart
  else ctx

def s2InclusionKeyGrant (accept : Bool) (keys : UInt8) (csa : Bool) (answers : Answers) : Context :=
  if accept then
    { ctx with
      inclusionMode := if csa then .csa else .ssa
      keyGranted := keys }.processEvent answers .includingAccept
  else ctx.processEvent answers .includingReject

def s2InclusionChallengeResponse (accept : Bool) (answers : Answers) : Context :=
  ctx.processEvent answers (if accept then .includingAccept else .includingReject)

def s2InclusionSendDone (status : Bool) (answers : Answers) : Context :=
  if ctx.retryCounter = queueFull then
    { ctx with retryCounter := maxRetryCount }.processEvent answers .inclusionRetry
  else if 0 < ctx.retryCounter then
    ctx.processEvent answers (if status then .inclusionSendDone else .inclusionRetry)
  else
    ctx.processEvent answers (if status then .inclusionSendDone else .inclusionSendFailed)

def s2InclusionDecryptionFailure (rNode : Nat) (answers : Answers) : Context :=
  if rNode = ctx.peerNode then ctx.processEvent answers .includingDecryptFailed
  else ctx

/-- What happens to an including controller. -/
inductive Action where
  | includingStart (rNode : Nat) (answers : Answers)
  | keyGrant (accept : Bool) (keys : UInt8) (csa : Bool) (answers : Answers)
  | challengeResponse (accept : Bool) (answers : Answers)
  | abort (answers : Answers)
  | frame (frame : ReceivedFrame) (answers : Answers)
  | decryptionFailure (rNode : Nat) (answers : Answers)
  | timeout (answers : Answers)
  | sendDone (status : Bool) (answers : Answers)

/-- One event. -/
def step : Action -> Context
  | .includingStart rNode answers => ctx.s2InclusionIncludingStart rNode answers
  | .keyGrant accept keys csa answers => ctx.s2InclusionKeyGrant accept keys csa answers
  | .challengeResponse accept answers => ctx.s2InclusionChallengeResponse accept answers
  | .abort answers => ctx.processEvent answers .includingReject
  | .frame frame answers => ctx.s2InclusionPostEvent frame answers
  | .decryptionFailure rNode answers => ctx.s2InclusionDecryptionFailure rNode answers
  | .timeout answers => ctx.processEvent answers .inclusionTimeout
  | .sendDone status answers => ctx.s2InclusionSendDone status answers

/-- The context after `S2_init_ctx`. -/
def initial : Context where
  inclusionState := .idle
  peerNode := 0
  peerClassId := 0
  inclusionMode := .csa
  kexFailCode := 0
  schemeSupport := 0
  curveSupport := 0
  kexReportEchoPayload := []
  keyExchange := 0
  keyGranted := 0
  keyRequested := 0
  buf := []
  inclusionBuf := .kexGet
  bufferKey := none
  retryCounter := 0
  kexSetKeys := none
  history := []
  reports := []
  events := []

end Context

end S2Inclusion
