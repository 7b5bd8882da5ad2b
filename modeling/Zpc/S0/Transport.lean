import Mathlib.Logic.Function.Basic
import Zpc.S0.Cipher

/-!
# The S0 transport

The sending and receiving sessions of `zwave_s0_transport.c` and the frames that reach
them.  A sending session occupies one of two slots.  A frame that it hands to `zwave_tx`
is completed later, and the completion knows the slot only.

Inside a send `zwave_tx` may evict frames that were queued before, which are completed as
failed at once.  The callback of a session only posts an event there and does not call
back into the transport.  The answers of `zwave_tx`, of the random number generator and
of the frame size selection come with the action.  When an assertion fails or the draws
do not suffice for a nonce, the action is not over and the state is left as it is.

A handler and a callback of a timer are one step each.  The source has no lock between
their threads, so two of them can also overlap; such runs are not described here.

The state keeps a record of sessions, frames and callbacks; no function of the source
reads it.  What the handler passes on to the bootstrapping machine is left out, and so is
the answer to a request for the supported commands.
-/

namespace S0

open Foundation

def securityNonceGet : UInt8 := 0x40

def securityNonceReport : UInt8 := 0x80

def networkKeySet : UInt8 := 0x06

def zwaveMaxFrameSize : Nat := 158

def maxEncryptedMsgSize : Nat := 128

def nonceBlockListSize : Nat := 10

/-- `CLOCK_SECOND` in milliseconds. -/
def clockSecond : Nat := 1000

def transmitCompleteOk : Nat := 0x00

def transmitCompleteFail : Nat := 0x02

def transmitCompleteVerified : Nat := 0x05

def isTransmissionSuccessful (status : Nat) : Bool :=
  status == transmitCompleteOk || status == transmitCompleteVerified

/-- One of `NUM_TX_SESSIONS` or `MAX_RXSESSIONS` slots. -/
abbrev Slot := Fin 2

/-- `zwave_tx_session_id_t`, where zero is the null pointer. -/
abbrev TxSessionId := Nat

/-- The content of a `zwapi_tx_report_t`, which is only handed on. -/
abbrev TxInfo := Nat

/-- `tx_state_t`. -/
inductive TxState
  | nonceGet
  | nonceGetSent
  | encMsg
  | encMsgSent
  | encMsg2
  | encMsg2Sent
  | txDone
  deriving DecidableEq

/-- `sec_tx_session_t`.  The data is what is left to be sent.  For the record a session in
progress has a number, and it keeps the payload as it was handed over. -/
structure TxSession where
  localNodeId : NodeId
  remoteNodeId : NodeId
  data : List UInt8
  state : TxState
  txCode : Nat
  timer : Bool
  seq : UInt8
  useInclusionKey : Bool
  callback : Bool
  txExtStatus : Option TxInfo
  sessionId : TxSessionId
  number : Option Nat
  payload : List UInt8

namespace TxSession

/-- A session of zeros. -/
def zero : TxSession where
  localNodeId := 0
  remoteNodeId := 0
  data := []
  state := .nonceGet
  txCode := 0
  timer := false
  seq := 0
  useInclusionKey := false
  callback := false
  txExtStatus := none
  sessionId := 0
  number := none
  payload := []

/-- `reset_tx_session_data`. -/
def reset (session : TxSession) : TxSession :=
  { session with
    localNodeId := 0
    remoteNodeId := 0
    data := []
    timer := false
    useInclusionKey := false
    callback := false
    txExtStatus := none
    sessionId := 0
    number := none
    payload := [] }

end TxSession

/-- The part of an exchange that a frame is: the Nonce Get, or an encrypted frame with the
data in it. -/
inductive Part
  | nonceGet
  | first (data : List UInt8)
  | second (data : List UInt8)
  deriving DecidableEq

/-- A frame whose completion is outstanding, with the session that sent it. -/
structure QueuedFrame where
  id : Nat
  slot : Slot
  session : Option Nat
  part : Part
  deriving DecidableEq

/-- A frame that was handed to `zwave_tx`. -/
structure SentFrame where
  localNodeId : NodeId
  remoteNodeId : NodeId
  bytes : List UInt8
  deriving DecidableEq

/-- One call of the callback of a session. -/
structure Outcome where
  session : Option Nat
  payload : List UInt8
  status : Nat
  txInfo : Option TxInfo
  sessionId : TxSessionId

/-- `nonce_block_t`. -/
structure BlockedNonce where
  nonce : Nonce
  src : NodeId
  dst : NodeId
  deriving DecidableEq

/-- `rx_session_state_t`. -/
inductive RxState
  | rxInit
  | rxEnc1
  | rxEnc2
  | rxSessionDone
  deriving DecidableEq

/-- `rx_session_t`. -/
structure RxSession where
  snode : NodeId
  dnode : NodeId
  state : RxState
  seqNr : UInt8
  msg : List UInt8
  timeout : Nat

/-- A frame that was passed to the upper layer with S0 encapsulation. -/
structure Delivery where
  localNodeId : NodeId
  remoteNodeId : NodeId
  data : List UInt8
  deriving DecidableEq

/-- What `zwave_tx_scheme_get_max_payload` may return. -/
structure FrameSize where
  size : Nat
  moreThanHeader : s0EncapHeaderLen < size
  isByte : size < 2 ^ 8

/-- How the surroundings answer in the course of one action. -/
structure Answers where
  draws : List Block
  maxFrameSize : FrameSize
  evicted : List Nat
  accepted : Bool

/-- The variables of the transport, and the record with the newest entries first. -/
structure Transport where
  keys : Keys
  inclusionKeys : Keys
  nonceTable : NonceTable
  nonceBlock : List (Option BlockedNonce)
  blockNextElem : Nat
  txSessions : Slot -> TxSession
  rxSessions : Slot -> RxSession
  lastSeq : UInt8
  clockTime : Nat
  /-- How many sends were accepted. -/
  accepted : Nat
  /-- The sends with a callback. -/
  promised : List Nat
  /-- How many frames were queued. -/
  frames : Nat
  /-- The frames not completed yet. -/
  queued : List QueuedFrame
  sent : List SentFrame
  /-- The parts that were sent successfully. -/
  confirmed : List (Nat × Part)
  /-- The callbacks made. -/
  outcomes : List Outcome
  /-- The completed frames that changed a session that did not send them. -/
  disturbances : List QueuedFrame
  /-- The payloads handed on. -/
  delivered : List Delivery

namespace Transport

/-- The slots in the order in which they are searched. -/
def slots : List Slot := [0, 1]

/-- The slot that is searched first. -/
def firstSlot : Slot := 0

/-- The first of the slots that fits. -/
def findSlot (fits : Slot -> Bool) : Option Slot := slots.find? fits

variable (transport : Transport)

/-- Change the session of a slot. -/
def modifySession (slot : Slot) (change : TxSession -> TxSession) : Transport :=
  { transport with
    txSessions := Function.update transport.txSessions slot (change (transport.txSessions slot)) }

/-- A session enters `TX_DONE`: its callback is called, and its slot is cleared. -/
def txDone (transport : Transport) (slot : Slot) : Transport :=
  let session := transport.txSessions slot
  { transport.modifySession slot fun session => { session.reset with state := .txDone } with
    outcomes :=
      if session.callback then
        ⟨session.number, session.payload, session.txCode, session.txExtStatus,
          session.sessionId⟩ :: transport.outcomes
      else transport.outcomes }

/-- A session ends with `TRANSMIT_COMPLETE_FAIL`. -/
def txFail (slot : Slot) : Transport :=
  (transport.modifySession slot fun session =>
    { session with txCode := transmitCompleteFail }).txDone slot

/-- A session enters `ENC_MSG_SENT`. -/
def encMsgSent (transport : Transport) (slot : Slot) : Transport :=
  if (transport.txSessions slot).data ≠ [] then
    transport.modifySession slot fun session => { session with state := .encMsgSent, timer := true }
  else transport.txDone slot

/-- A session enters `ENC_MSG2_SENT`. -/
def encMsg2Sent (slot : Slot) : Transport :=
  if (transport.txSessions slot).data ≠ [] then transport.txFail slot
  else transport.txDone slot

/-- `callback`, for the slot it is called with. -/
def callback (status : Nat) (txInfo : Option TxInfo) (slot : Slot) : Transport :=
  let transport := transport.modifySession slot fun session =>
    { session with
      txCode := status
      txExtStatus := txInfo.or session.txExtStatus }
  if isTransmissionSuccessful status then
    match (transport.txSessions slot).state with
    | .encMsg => transport.encMsgSent slot
    | .encMsg2 => transport.encMsg2Sent slot
    | .nonceGet =>
        transport.modifySession slot fun session =>
          { session with state := .nonceGetSent, timer := true }
    | _ => transport
  else transport.txDone slot

/-- A queued frame is off the queue, and noted when it was sent. -/
def unqueue (frame : QueuedFrame) (status : Nat) : Transport :=
  { transport with
    queued := transport.queued.filter fun other => other.id ≠ frame.id
    confirmed :=
      match frame.session with
      | some number =>
          if isTransmissionSuccessful status then (number, frame.part) :: transport.confirmed
          else transport.confirmed
      | none => transport.confirmed }

/-- A frame changes the state, the status or the timer of a session that did not send
it. -/
def disturbs (frame : QueuedFrame) (before after : TxSession) : Bool :=
  before.number.isSome && before.number != frame.session &&
    (after.state != before.state || after.txCode != before.txCode || after.timer != before.timer)

/-- A queued frame is completed. -/
def frameCompletes (id : Nat) (status : Nat) (txInfo : Option TxInfo) : Transport :=
  match transport.queued.find? fun frame => frame.id == id with
  | none => transport
  | some frame =>
      let completed := (transport.unqueue frame status).callback status txInfo frame.slot
      { completed with
        disturbances :=
          if disturbs frame (transport.txSessions frame.slot) (completed.txSessions frame.slot) then
            frame :: completed.disturbances
          else completed.disturbances }

/-- The frames that `zwave_tx` evicts are completed. -/
def evictFrames (evicted : List Nat) : Transport :=
  evicted.foldl (fun transport id =>
    transport.frameCompletes id transmitCompleteFail none) transport

/-- A frame is queued in `zwave_tx`. -/
def enqueue (slot : Slot) (session : Option Nat) (part : Part) (frame : SentFrame) : Transport :=
  { transport with
    frames := transport.frames + 1
    queued := ⟨transport.frames, slot, session, part⟩ :: transport.queued
    sent := frame :: transport.sent }

/-- A session hands a frame to `zwave_tx`, and starts its timer when the frame is taken. -/
def sendFrame (slot : Slot) (part : Part) (bytes : List UInt8) (answers : Answers) : Transport :=
  let session := transport.txSessions slot
  let transport := transport.evictFrames answers.evicted
  if answers.accepted then
    (transport.enqueue slot session.number part
      ⟨session.localNodeId, session.remoteNodeId, bytes⟩).modifySession slot
        fun session => { session with timer := true }
  else transport.txFail slot

/-- What comes of `s0_encrypt_message`: it does not end, it returns zero, or it returns a
frame, with the data in it. -/
inductive Encryption
  | stuck
  | refused (transport : Transport)
  | encrypted (transport : Transport) (frame data : List UInt8)

/-- The flags of a frame. -/
def frameFlags (pass2 more : Bool) (seq : UInt8) : UInt8 :=
  if pass2 then sequencedBitMask ||| secondFrameBitMask ||| (seq &&& 0xF)
  else if more then sequencedBitMask ||| (seq &&& 0xF)
  else 0

/-- The security header of a frame. -/
def securityHeader (pass2 more : Bool) : UInt8 :=
  if pass2 then securityMessageEncapsulation
  else if more then securityMessageEncapsulationNonceGet
  else securityMessageEncapsulation

/-- The length of the data in a frame, and whether some is left over. -/
def fragment (dataLength : Nat) (maxFrameSize : FrameSize) : Nat × Bool :=
  if maxFrameSize.size < dataLength + s0EncapHeaderLen then
    (maxFrameSize.size - s0EncapHeaderLen, true)
  else (dataLength, false)

/-- The nonce of the first draw that starts no valid nonce between the nodes. -/
def drawNonce (src dst : NodeId) (draws : List Block) : Option Nonce :=
  (draws.find? fun draw =>
    (transport.nonceTable.getS0Nonce src dst (some (draw[0]))).isNone).map
      fun draw => nonceOf draw.toList

variable (aes : BlockCipher)

/-- `s0_encrypt_message`. -/
def encryptMessage (transport : Transport) (slot : Slot) (pass2 : Bool)
    (answers : Answers) : Encryption :=
  let session := transport.txSessions slot
  let (length, more) := fragment session.data.length answers.maxFrameSize
  if zwaveMaxFrameSize < length + s0EncapHeaderLen then .stuck
  else
    match transport.drawNonce session.remoteNodeId session.localNodeId answers.draws with
    | none => .stuck
    | some nonce =>
        match transport.nonceTable.getS0Nonce session.remoteNodeId session.localNodeId none with
        | none => .refused transport
        | some entry =>
            let cleared :=
              transport.nonceTable.useNonce session.remoteNodeId session.localNodeId entry
            let encrypted :=
              { transport with
                nonceTable :=
                  cleared.registerNonce session.localNodeId session.remoteNodeId true
                    nonce }.modifySession slot fun session =>
                { session with data := session.data.drop length }
            if pass2 ∧ session.data.drop length ≠ [] then .refused encrypted
            else
              .encrypted encrypted
                (encapsulatedFrame aes
                  (if session.useInclusionKey then transport.inclusionKeys else transport.keys)
                  nonce entry.nonce (securityHeader pass2 more) session.localNodeId
                  session.remoteNodeId (frameFlags pass2 more session.seq)
                  (session.data.take length))
                (session.data.take length)

/-- A session enters `ENC_MSG` or `ENC_MSG2`. -/
def sendEncrypted (transport : Transport) (slot : Slot) (pass2 : Bool)
    (answers : Answers) : Option Transport :=
  let transport := transport.modifySession slot fun session =>
    { session with
      state := if pass2 then .encMsg2 else .encMsg
      timer := false }
  match transport.encryptMessage aes slot pass2 answers with
  | .stuck => none
  | .refused transport => some (transport.txFail slot)
  | .encrypted transport frame data =>
      some (transport.sendFrame slot (if pass2 then .second data else .first data) frame answers)

/-- The arguments of `zwave_s0_send_data` that are read. -/
structure SendRequest where
  encapsulation : Encapsulation
  isMulticast : Bool
  localNodeId : NodeId
  remoteNodeId : NodeId
  data : List UInt8
  callback : Bool
  sessionId : TxSessionId

def getTxSessionByNode (snode dnode : NodeId) : Option Slot :=
  findSlot fun slot =>
    (transport.txSessions slot).remoteNodeId == cutNodeId dnode &&
      (transport.txSessions slot).localNodeId == cutNodeId snode

/-- The data that a session keeps of a request, whose length is cut to eight bits. -/
def keptData (data : List UInt8) : List UInt8 := data.take (data.length % 2 ^ 8)

/-- A session takes a slot. -/
def openSession (slot : Slot) (request : SendRequest) : Transport :=
  { transport.modifySession slot fun session =>
      { session with
        localNodeId := request.localNodeId
        remoteNodeId := request.remoteNodeId
        data := keptData request.data
        state := .nonceGet
        seq := transport.lastSeq + 1
        useInclusionKey := [commandClassSecurity, networkKeySet] <+: keptData request.data
        callback := request.callback
        sessionId := request.sessionId
        number := some transport.accepted
        payload := request.data } with
    lastSeq := transport.lastSeq + 1
    accepted := transport.accepted + 1
    promised :=
      if request.callback then transport.accepted :: transport.promised
      else transport.promised }

/-- `zwave_s0_send_data`.  A multicast opens no session. -/
def sendData (request : SendRequest) (answers : Answers) : Transport :=
  if request.encapsulation ≠ .security0 then transport
  else if request.isMulticast then transport
  else
    match transport.getTxSessionByNode request.localNodeId request.remoteNodeId with
    | some _ => transport
    | none =>
        match findSlot fun slot => (transport.txSessions slot).remoteNodeId == 0 with
        | none => transport
        | some slot =>
            (transport.openSession slot request).sendFrame slot .nonceGet
              [commandClassSecurity, securityNonceGet] answers

/-- `s0_is_nonce_blocked`. -/
def isNonceBlocked (src dst : NodeId) (nonce : Nonce) : Bool :=
  transport.nonceBlock.any fun blocked => blocked == some ⟨nonce, cutNodeId src, cutNodeId dst⟩

/-- `s0_block_nonce`. -/
def blockNonce (src dst : NodeId) (nonce : Nonce) : Transport :=
  { transport with
    nonceBlock :=
      transport.nonceBlock.set transport.blockNextElem
        (some ⟨nonce, cutNodeId src, cutNodeId dst⟩)
    blockNextElem := (transport.blockNextElem + 1) % nonceBlockListSize }

/-- `s0_register_nonce`. -/
def registerNonce (transport : Transport) (src dst : NodeId) (nonce : Nonce)
    (answers : Answers) : Option Transport :=
  if transport.isNonceBlocked src dst nonce then some transport
  else
    match transport.getTxSessionByNode dst src with
    | none => some transport
    | some slot =>
        let transport :=
          { transport with
            nonceTable := transport.nonceTable.registerNonce src dst false nonce }.blockNonce src
              dst nonce
        match (transport.txSessions slot).state with
        | .nonceGet => transport.sendEncrypted aes slot false answers
        | .nonceGetSent => transport.sendEncrypted aes slot false answers
        | .encMsgSent => transport.sendEncrypted aes slot true answers
        | .encMsg =>
            if (transport.txSessions slot).data ≠ [] then
              transport.sendEncrypted aes slot true answers
            else some transport
        | _ => some transport

/-- `s0_send_nonce`.  A Nonce Report has no callback. -/
def sendNonce (localNodeId remoteNodeId : NodeId) (answers : Answers) : Option Transport :=
  match transport.drawNonce localNodeId remoteNodeId answers.draws with
  | none => none
  | some nonce =>
      let transport := transport.evictFrames answers.evicted
      if answers.accepted then
        some
          { transport with
            nonceTable := transport.nonceTable.registerNonce localNodeId remoteNodeId false nonce
            sent :=
              ⟨localNodeId, remoteNodeId,
                commandClassSecurity :: securityNonceReport :: nonce.toList⟩ :: transport.sent }
      else some transport

/-- Whether a receiving session is done or has expired. -/
def isFree (slot : Slot) : Bool :=
  (transport.rxSessions slot).state == .rxSessionDone ||
    decide ((transport.rxSessions slot).timeout < transport.clockTime)

/-- Change a receiving session. -/
def modifyRxSession (slot : Slot) (change : RxSession -> RxSession) : Transport :=
  { transport with
    rxSessions := Function.update transport.rxSessions slot (change (transport.rxSessions slot)) }

def getRxSessionByNodes (snode dnode : NodeId) : Option Slot :=
  findSlot fun slot =>
    !transport.isFree slot && (transport.rxSessions slot).dnode == cutNodeId dnode &&
      (transport.rxSessions slot).snode == cutNodeId snode

/-- `new_rx_session`, in the state that `s0_decrypt_message` gives it. -/
def newRxSession (snode dnode : NodeId) : Option (Slot × Transport) :=
  (findSlot transport.isFree).map fun slot =>
    (slot, transport.modifyRxSession slot fun session =>
      { session with
        snode := cutNodeId snode
        dnode := cutNodeId dnode
        state := .rxInit
        timeout := transport.clockTime + clockSecond * 10 })

/-- The session that `s0_decrypt_message` works with. -/
def rxSessionFor (snode dnode : NodeId) : Option (Slot × Transport) :=
  match transport.getRxSessionByNodes snode dnode with
  | some slot => some (slot, transport)
  | none => transport.newRxSession snode dnode

/-- The end of `s0_decrypt_message`, with the flags and the data of the frame. -/
def assemble (slot : Slot) (flags : UInt8) (data : List UInt8) : List UInt8 × Transport :=
  let session := transport.rxSessions slot
  if flags &&& sequencedBitMask ≠ 0 then
    if flags &&& secondFrameBitMask = 0 then
      ([], transport.modifyRxSession slot fun session =>
        { session with seqNr := flags &&& 0xF, msg := data, state := .rxEnc1 })
    else if session.state ≠ .rxEnc1 ∨ flags &&& 0xF ≠ session.seqNr then ([], transport)
    else
      (session.msg ++ data,
        transport.modifyRxSession slot fun session => { session with state := .rxSessionDone })
  else
    (data, transport.modifyRxSession slot fun session => { session with state := .rxSessionDone })

/-- `s0_decrypt_message`.  No data stands for the length zero. -/
def decryptMessage (transport : Transport) (localNodeId remoteNodeId : NodeId)
    (encryptedFrame : List UInt8) : List UInt8 × Transport :=
  let frame := encryptedFrame.take (encryptedFrame.length % 2 ^ 8)
  if frame.length < s0EncapHeaderLen then ([], transport)
  else if maxEncryptedMsgSize < frame.length - s0EncapHeaderLen then ([], transport)
  else
    match transport.nonceTable.getS0Nonce localNodeId remoteNodeId
        (some (receiversNonceIdentifier frame)) with
    | none => ([], transport)
    | some entry =>
        let transport :=
          { transport with
            nonceTable := transport.nonceTable.useNonce localNodeId remoteNodeId entry }
        match transport.rxSessionFor remoteNodeId localNodeId with
        | none => ([], transport)
        | some (slot, transport) =>
            let session := transport.rxSessions slot
            if session.state ≠ .rxInit ∧
                maxEncryptedMsgSize < session.msg.length + frame.length - s0EncapHeaderLen then
              ([], transport)
            else
              match openedFrame aes transport.keys entry.nonce remoteNodeId localNodeId frame with
              | none => ([], transport)
              | some (flags, data) => transport.assemble slot flags data

/-- `s0_application_command_handler`. -/
def applicationCommandHandler (transport : Transport) (localNodeId remoteNodeId : NodeId)
    (encapsulation : Encapsulation) (frame : List UInt8) (answers : Answers) : Option Transport :=
  if zwaveMaxFrameSize < frame.length then some transport
  else if frame.getD 0 0 ≠ commandClassSecurity then some transport
  else if frame.getD 1 0 = securityNonceGet then
    if encapsulation = .none then transport.sendNonce localNodeId remoteNodeId answers
    else some transport
  else if frame.getD 1 0 = securityNonceReport then
    if encapsulation = .none ∧ 10 ≤ frame.length then
      transport.registerNonce aes remoteNodeId localNodeId (nonceOf (frame.drop 2)) answers
    else some transport
  else if frame.getD 1 0 = securityMessageEncapsulationNonceGet ∨
      frame.getD 1 0 = securityMessageEncapsulation then
    let decrypted := transport.decryptMessage aes localNodeId remoteNodeId frame
    if decrypted.1 = [] then some decrypted.2
    else
      some
        { decrypted.2 with
          delivered := ⟨localNodeId, remoteNodeId, decrypted.1⟩ :: decrypted.2.delivered }
  else some transport

/-- `s0_set_key`. -/
def setKey (transport : Transport) (networkKey : Block) : Transport :=
  { transport with
    keys := keysOf aes networkKey
    inclusionKeys := keysOf aes (.replicate 16 0) }

/-- `zwave_s0_on_abort_send_data`. -/
def onAbortSendData (sessionId : TxSessionId) : Bool × Transport :=
  match findSlot fun slot => (transport.txSessions slot).sessionId == sessionId with
  | none => (false, transport)
  | some slot =>
      (true, transport.callback transmitCompleteFail (transport.txSessions slot).txExtStatus slot)

/-- `s0_abort_all_tx_sessions`. -/
def abortAllTxSessions : Transport :=
  slots.foldl
    (fun transport slot =>
      if (transport.txSessions slot).remoteNodeId ≠ 0 then transport.txFail slot else transport)
    transport

/-- `zwave_s0_network_init`, with the key if there is one in the keystore. -/
def networkInit (transport : Transport) (networkKey : Option Block) : Transport :=
  let transport := transport.abortAllTxSessions
  let transport :=
    { transport with
      txSessions := fun _ => .zero
      rxSessions := fun slot => { transport.rxSessions slot with state := .rxSessionDone }
      nonceBlock := .replicate nonceBlockListSize none
      blockNextElem := 0
      nonceTable := transport.nonceTable.resetS0Timers }
  match networkKey with
  | none => transport
  | some networkKey => transport.setKey aes networkKey

/-- What can happen to the transport. -/
inductive Action
  | sendData (request : SendRequest) (answers : Answers)
  | frameCompletes (id status : Nat) (txInfo : Option TxInfo)
  | timerExpires (slot : Slot)
  | abortSendData (sessionId : TxSessionId)
  | frameReceived (localNodeId remoteNodeId : NodeId) (encapsulation : Encapsulation)
      (frame : List UInt8) (answers : Answers)
  | nonceTimerExpires
  | networkInit (networkKey : Option Block)
  | setKey (networkKey : Block)
  | clockTick (elapsed : Nat)

/-- One step of the transport.  A timer fires when it is armed. -/
def step (transport : Transport) : Action -> Transport
  | .sendData request answers => transport.sendData request answers
  | .frameCompletes id status txInfo => transport.frameCompletes id status txInfo
  | .timerExpires slot =>
      if (transport.txSessions slot).timer then
        (transport.modifySession slot fun session => { session with timer := false }).txFail slot
      else transport
  | .abortSendData sessionId => (transport.onAbortSendData sessionId).2
  | .frameReceived localNodeId remoteNodeId encapsulation frame answers =>
      (transport.applicationCommandHandler aes localNodeId remoteNodeId encapsulation frame
        answers).getD transport
  | .nonceTimerExpires =>
      if transport.nonceTable.timerArmed then
        { transport with nonceTable := transport.nonceTable.nonceTimerTimeout }
      else transport
  | .networkInit networkKey => transport.networkInit aes networkKey
  | .setKey networkKey => transport.setKey aes networkKey
  | .clockTick elapsed => { transport with clockTime := transport.clockTime + elapsed }

/-- The state before the transport is initialised. -/
def initial : Transport where
  keys := ⟨.replicate 16 0, .replicate 16 0⟩
  inclusionKeys := ⟨.replicate 16 0, .replicate 16 0⟩
  nonceTable := .initial
  nonceBlock := .replicate nonceBlockListSize none
  blockNextElem := 0
  txSessions := fun _ => .zero
  rxSessions := fun _ => ⟨0, 0, .rxInit, 0, [], 0⟩
  lastSeq := 0
  clockTime := 0
  accepted := 0
  promised := []
  frames := 0
  queued := []
  sent := []
  confirmed := []
  outcomes := []
  disturbances := []
  delivered := []

end Transport

end S0
