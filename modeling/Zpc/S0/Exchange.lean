import Zpc.Foundation.Ends
import Zpc.S0.RoundTrip

/-!
# The exchange between two nodes

Two nodes run the transport with the same key, and one of them sends a payload to the
other.  Frames are delivered and completed in any order, and none gets lost.  A payload of
one frame is handed over once, and the sender reports success.  A longer payload never is:
the frame that asks for another nonce is not answered.
-/

namespace S0

open Foundation Relation

/-! ## The system -/

/-- The two nodes, and the frames that are under way between them. -/
structure Exchange where
  sender : Transport
  receiver : Transport
  toReceiver : List SentFrame
  toSender : List SentFrame

/-- `zwave_tx` takes every frame and evicts none. -/
structure Lossless (maxFrameSize : FrameSize) (answers : Answers) : Prop where
  accepted : answers.accepted = true
  evicted : answers.evicted = []
  maxFrameSize : answers.maxFrameSize = maxFrameSize

namespace Exchange

/-- The frames that were handed to `zwave_tx` in between. -/
def newFrames (before after : Transport) : List SentFrame :=
  after.sent.take (after.sent.length - before.sent.length)

/-- A frame reaches the other node, if the handler comes to an end. -/
def deliver (aes : BlockCipher) (node : Transport) (frame : SentFrame)
    (answers : Answers) : Option Transport :=
  node.applicationCommandHandler aes frame.remoteNodeId frame.localNodeId .none frame.bytes answers

/-- A frame that is under way is delivered, or a frame of the sender is completed. -/
inductive Move (aes : BlockCipher) (maxFrameSize : FrameSize) : Exchange -> Exchange -> Prop
  | deliverToReceiver
      {exchange : Exchange}
      {frame : SentFrame}
      (underWay : frame ∈ exchange.toReceiver)
      {answers : Answers}
      (lossless : Lossless maxFrameSize answers)
      {after : Transport}
      (delivered : deliver aes exchange.receiver frame answers = some after) :
      Move aes maxFrameSize exchange
        { exchange with
          receiver := after
          toReceiver := exchange.toReceiver.erase frame
          toSender := exchange.toSender ++ newFrames exchange.receiver after }
  | deliverToSender
      {exchange : Exchange}
      {frame : SentFrame}
      (underWay : frame ∈ exchange.toSender)
      {answers : Answers}
      (lossless : Lossless maxFrameSize answers)
      {after : Transport}
      (delivered : deliver aes exchange.sender frame answers = some after) :
      Move aes maxFrameSize exchange
        { exchange with
          sender := after
          toReceiver := exchange.toReceiver ++ newFrames exchange.sender after
          toSender := exchange.toSender.erase frame }
  | completes
      {exchange : Exchange}
      {frame : QueuedFrame}
      (isQueued : frame ∈ exchange.sender.queued)
      {status : Nat}
      (isSuccess : isTransmissionSuccessful status = true)
      (txInfo : Option TxInfo) :
      Move aes maxFrameSize exchange
        { exchange with sender := exchange.sender.frameCompletes frame.id status txInfo }

/-- A node after `zwave_s0_network_init` with a key. -/
def node (aes : BlockCipher) (networkKey : Block) : Transport :=
  Transport.initial.networkInit aes (some networkKey)

/-- A node is called with a request, and the other one has yet to hear of it. -/
def start (aes : BlockCipher) (networkKey : Block) (request : Transport.SendRequest)
    (answers : Answers) : Exchange where
  sender := (node aes networkKey).sendData request answers
  receiver := node aes networkKey
  toReceiver := newFrames (node aes networkKey) ((node aes networkKey).sendData request answers)
  toSender := []

variable (request : Transport.SendRequest)

/-- The payload was handed over once, and the callback was called once, with success. -/
def Completed (exchange : Exchange) : Prop :=
  exchange.receiver.delivered = [⟨request.remoteNodeId, request.localNodeId, request.data⟩] ∧
    ∃ outcome, exchange.sender.outcomes = [outcome] ∧ outcome.session = some 0 ∧
      outcome.payload = request.data ∧ isTransmissionSuccessful outcome.status = true

/-! ## A table without a valid nonce -/

/-- No nonce of a table is valid, and there is room for one. -/
structure NoneValid (table : NonceTable) : Prop where
  invalid : ∀ entry ∈ table.entries, entry.isValid = false
  room : table.entries ≠ []

variable {table : NonceTable} {before after : Transport}

theorem NoneValid.getS0Nonce (noneValid : NoneValid table) (src dst : NodeId)
    (first : Option UInt8) :
    table.getS0Nonce src dst first = none := by
  apply List.find?_eq_none.mpr
  intro entry isEntry
  rw [noneValid.invalid entry isEntry]
  exact Bool.false_ne_true

theorem NoneValid.registerNonce (noneValid : NoneValid table) (src dst : NodeId) (nonce : Nonce) :
    ∃ entry, entry.nonce = nonce ∧ entry.isValid = true ∧
      entry.isOf (cutNodeId src) (cutNodeId dst) = true ∧
      entry ∈ (table.registerNonce src dst false nonce).entries ∧
      ∀ other ∈ (table.registerNonce src dst false nonce).entries, other.isValid = true ->
        other = entry := by
  obtain ⟨invalid, room⟩ := noneValid
  cases isEntries : table.entries with
  | nil => exact absurd isEntries room
  | cons head rest =>
    rw [isEntries] at invalid
    have headInvalid := invalid head List.mem_cons_self
    have registered : (table.registerNonce src dst false nonce).entries =
        { table.renew nonce head with
          src := cutNodeId src
          dst := cutNodeId dst
          replyNonce := false } :: rest := by
      unfold NonceTable.registerNonce
      rw [isEntries]
      simp [overwriteFirst, headInvalid, NonceTable.withRegistration]
    rw [registered]
    refine ⟨_, rfl, ?_, ?_, List.mem_cons_self, ?_⟩
    · rfl
    · simp [NonceEntry.isOf]
    · intro other isOther isValid
      rcases List.mem_cons.mp isOther with isNew | isRest
      · exact isNew
      · rw [invalid other (List.mem_cons_of_mem head isRest)] at isValid
        cases isValid

theorem NoneValid.getS0Nonce_registerNonce (noneValid : NoneValid table) (src dst : NodeId)
    (nonce : Nonce) :
    ∃ entry, entry.nonce = nonce ∧
      (table.registerNonce src dst false nonce).getS0Nonce src dst none = some entry := by
  obtain ⟨entry, isNonce, isValid, isOf, isEntry, only⟩ := noneValid.registerNonce src dst nonce
  refine ⟨entry, isNonce, ?_⟩
  cases found : (table.registerNonce src dst false nonce).getS0Nonce src dst none with
  | none =>
    have notFound := List.find?_eq_none.mp found entry isEntry
    simp [isValid, isOf] at notFound
  | some other =>
    have fits := List.find?_some found
    simp only [Bool.and_eq_true] at fits
    rw [only other (List.mem_of_find?_eq_some found) fits.1.1]

/-! ## Frames without loss -/

open Transport in
theorem sendFrame_lossless {maxFrameSize : FrameSize} {answers : Answers}
    (lossless : Lossless maxFrameSize answers) (transport : Transport) (slot : Slot) (part : Part)
    (bytes : List UInt8) :
    transport.sendFrame slot part bytes answers =
      (transport.enqueue slot (transport.txSessions slot).number part
        ⟨(transport.txSessions slot).localNodeId, (transport.txSessions slot).remoteNodeId,
          bytes⟩).modifySession slot fun session => { session with timer := true } := by
  unfold sendFrame
  rw [lossless.evicted, if_pos lossless.accepted]
  rfl

theorem newFrames_of_sent {before after : Transport} {frame : SentFrame}
    (sent : after.sent = frame :: before.sent) : newFrames before after = [frame] := by
  unfold newFrames
  rw [sent, List.length_cons, Nat.add_sub_cancel_left]
  rfl

theorem newFrames_of_same (sent : after.sent = before.sent) : newFrames before after = [] := by
  unfold newFrames
  rw [sent, Nat.sub_self]
  rfl

/-! ## The sender -/

section Sender

variable (aes : BlockCipher) (networkKey : Block) (request : Transport.SendRequest)

/-- The sender has asked for a nonce. -/
structure Waiting (sender : Transport) : Prop where
  keys : sender.keys = keysOf aes networkKey
  noneValid : NoneValid sender.nonceTable
  notBlocked : ∀ blocked ∈ sender.nonceBlock, blocked = none
  localNodeId : (sender.txSessions 0).localNodeId = request.localNodeId
  remoteNodeId : (sender.txSessions 0).remoteNodeId = request.remoteNodeId
  data : (sender.txSessions 0).data = request.data
  payload : (sender.txSessions 0).payload = request.data
  useInclusionKey : (sender.txSessions 0).useInclusionKey = false
  callback : (sender.txSessions 0).callback = true
  number : (sender.txSessions 0).number = some 0
  state : (sender.txSessions 0).state = .nonceGet ∨ (sender.txSessions 0).state = .nonceGetSent
  outcomes : sender.outcomes = []
  queued : ∀ frame ∈ sender.queued, frame.slot = 0

/-- The sender has sent all of the payload: the next completion ends its session, or has
done so. -/
structure SentAll (sender : Transport) : Prop where
  session :
    ((sender.txSessions 0).state = .encMsg ∧ (sender.txSessions 0).data = [] ∧
        (sender.txSessions 0).payload = request.data ∧ (sender.txSessions 0).callback = true ∧
        (sender.txSessions 0).number = some 0 ∧ sender.outcomes = [] ∧ sender.queued ≠ []) ∨
      ((sender.txSessions 0).state = .txDone ∧
        ∃ outcome, sender.outcomes = [outcome] ∧ outcome.session = some 0 ∧
          outcome.payload = request.data ∧ isTransmissionSuccessful outcome.status = true)
  queued : ∀ frame ∈ sender.queued, frame.slot = 0

variable {aes networkKey request}

variable {sender : Transport} {frame : QueuedFrame} {status : Nat}

open Transport in
theorem Waiting.frameCompletes (waiting : Waiting aes networkKey request sender)
    (isQueued : frame ∈ sender.queued) (isSuccess : isTransmissionSuccessful status = true)
    (txInfo : Option TxInfo) :
    Waiting aes networkKey request (sender.frameCompletes frame.id status txInfo) := by
  obtain ⟨found, isFound, -, disturbances, isAfter⟩ := frameCompletes_of_mem isQueued status txInfo
  have here : ∀ other ∈ (sender.frameCompletes frame.id status txInfo).queued, other.slot = 0 :=
    fun other isOther => waiting.queued other (queued_frameCompletes isOther)
  rw [isAfter, waiting.queued found isFound] at here ⊢
  obtain ⟨keys, noneValid, notBlocked, localNodeId, remoteNodeId, data, payload, useInclusionKey,
    callback, number, state, outcomes, -⟩ := waiting
  rcases state with isState | isState
  · have moved := callback_of_success (sender.unqueue found status) isSuccess txInfo 0
    have sameState : ((sender.unqueue found status).txSessions 0).state = .nonceGet := isState
    rw [sameState] at moved
    rw [moved] at here ⊢
    exact ⟨keys, noneValid, notBlocked, localNodeId, remoteNodeId, data, payload, useInclusionKey,
      callback, number, .inr rfl, outcomes, here⟩
  · have moved := callback_of_success (sender.unqueue found status) isSuccess txInfo 0
    have sameState : ((sender.unqueue found status).txSessions 0).state = .nonceGetSent := isState
    rw [sameState] at moved
    rw [moved] at here ⊢
    exact ⟨keys, noneValid, notBlocked, localNodeId, remoteNodeId, data, payload, useInclusionKey,
      callback, number, .inr isState, outcomes, here⟩

open Transport in
theorem SentAll.frameCompletes (sentAll : SentAll request sender) (isQueued : frame ∈ sender.queued)
    (isSuccess : isTransmissionSuccessful status = true) (txInfo : Option TxInfo) :
    SentAll request (sender.frameCompletes frame.id status txInfo) := by
  obtain ⟨found, isFound, -, disturbances, isAfter⟩ := frameCompletes_of_mem isQueued status txInfo
  have here : ∀ other ∈ (sender.frameCompletes frame.id status txInfo).queued, other.slot = 0 :=
    fun other isOther => sentAll.queued other (queued_frameCompletes isOther)
  refine ⟨.inr ?_, here⟩
  have moved := callback_of_success (sender.unqueue found status) isSuccess txInfo 0
  rw [isAfter, sentAll.queued found isFound]
  rcases sentAll.session with
    ⟨isState, noData, isPayload, isCallback, isNumber, noOutcome, -⟩ | ⟨isState, isOutcome⟩
  · have sameState : ((sender.unqueue found status).txSessions 0).state = .encMsg := isState
    rw [sameState] at moved
    have isDone : ((sender.unqueue found status).noteStatus status txInfo 0).encMsgSent 0 =
        ((sender.unqueue found status).noteStatus status txInfo 0).txDone 0 :=
      if_neg (not_not.mpr noData)
    rw [moved]
    rw [isDone]
    have isCalled :
        (((sender.unqueue found status).noteStatus status txInfo 0).txSessions 0).callback = true :=
      isCallback
    have noEarlier : ((sender.unqueue found status).noteStatus status txInfo 0).outcomes = [] :=
      noOutcome
    have reported := outcomes_txDone isCalled
    rw [noEarlier] at reported
    exact ⟨rfl, _, reported, isNumber, isPayload, isSuccess⟩
  · have sameState : ((sender.unqueue found status).txSessions 0).state = .txDone := isState
    rw [sameState] at moved
    rw [moved]
    exact ⟨isState, isOutcome⟩

end Sender

/-! ## The first frames -/

/-- A request for one node, that fits in two frames and is not a Network Key Set. -/
structure Admissible (maxFrameSize : FrameSize) (request : Transport.SendRequest) : Prop where
  encapsulation : request.encapsulation = .security0
  isMulticast : request.isMulticast = false
  callback : request.callback = true
  localNodeId : request.localNodeId < 2 ^ 8
  remoteNodeId : request.remoteNodeId < 2 ^ 8
  isNode : request.remoteNodeId ≠ 0
  notKeySet : [commandClassSecurity, networkKeySet].isPrefixOf request.data = false
  fits : request.data.length ≤ Transport.twoFrameCapacity maxFrameSize

/-- The Nonce Get of a sender. -/
def nonceGet : SentFrame :=
  ⟨request.localNodeId, request.remoteNodeId, [commandClassSecurity, securityNonceGet]⟩

/-- The Nonce Report of a receiver. -/
def nonceReport (nonce : Nonce) : SentFrame :=
  ⟨request.remoteNodeId, request.localNodeId,
    commandClassSecurity :: securityNonceReport :: nonce.toList⟩

section Start

variable
  {aes : BlockCipher}
  {networkKey : Block}
  {maxFrameSize : FrameSize}
  {request : Transport.SendRequest}
  {answers : Answers}

theorem Admissible.keptData (admissible : Admissible maxFrameSize request) :
    Transport.keptData request.data = request.data := by
  have short := (Nat.le_min.mp admissible.fits).1
  unfold Transport.keptData
  unfold maxEncryptedMsgSize at short
  rw [Nat.mod_eq_of_lt (by omega), List.take_length]

theorem noneValid_node (aes : BlockCipher) (networkKey : Block) :
    NoneValid (node aes networkKey).nonceTable := by
  constructor
  · intro entry isEntry
    rw [List.eq_of_mem_replicate isEntry]
    rfl
  · exact List.cons_ne_nil _ _

open Transport in
theorem sendData_node (admissible : Admissible maxFrameSize request)
    (lossless : Lossless maxFrameSize answers) :
    (node aes networkKey).sendData request answers =
      (((node aes networkKey).openSession 0 request).enqueue 0 (some 0) .nonceGet
        (nonceGet request)).modifySession 0 fun session => { session with timer := true } := by
  have noSession : (node aes networkKey).getTxSessionByNode request.localNodeId
      request.remoteNodeId = none := by
    apply List.find?_eq_none.mpr
    intro slot _
    have different : ¬ (0 = cutNodeId request.remoteNodeId) := by
      unfold cutNodeId
      rw [Nat.mod_eq_of_lt admissible.remoteNodeId]
      exact fun same => admissible.isNode same.symm
    simp only [Bool.and_eq_true, beq_iff_eq]
    exact fun both => different both.1
  have isFree : (findSlot fun slot =>
      ((node aes networkKey).txSessions slot).remoteNodeId == 0) = some 0 := rfl
  unfold sendData
  rw [if_neg (not_not.mpr admissible.encapsulation),
    if_neg (by rw [admissible.isMulticast]; exact Bool.false_ne_true), noSession, isFree]
  dsimp only
  rw [sendFrame_lossless lossless]
  rfl

open Transport in
theorem waiting_start (admissible : Admissible maxFrameSize request)
    (lossless : Lossless maxFrameSize answers) :
    Waiting aes networkKey request (start aes networkKey request answers).sender := by
  change Waiting aes networkKey request ((node aes networkKey).sendData request answers)
  rw [sendData_node admissible lossless]
  have notKeySet : decide
      ([commandClassSecurity, networkKeySet] <+: keptData request.data) = false := by
    apply decide_eq_false
    rw [admissible.keptData, ← List.isPrefixOf_iff_prefix, admissible.notKeySet]
    exact Bool.false_ne_true
  refine ⟨rfl, noneValid_node aes networkKey, ?_, rfl, rfl, admissible.keptData, rfl, notKeySet,
    admissible.callback, rfl, .inl rfl, rfl, ?_⟩
  · exact fun blocked isBlocked => List.eq_of_mem_replicate isBlocked
  · intro frame isQueued
    cases List.mem_singleton.mp isQueued
    rfl

end Start

/-! ## The receiver -/

section Receiver

variable (aes : BlockCipher) (networkKey : Block) (request : Transport.SendRequest)

/-- The receiver has nothing of the sender yet. -/
structure Listening (receiver : Transport) : Prop where
  keys : receiver.keys = keysOf aes networkKey
  noPending : receiver.getRxSessionByNodes request.localNodeId request.remoteNodeId = none
  free : ∃ slot, receiver.isFree slot = true
  delivered : receiver.delivered = []

variable {aes networkKey request}

theorem listening_node : Listening aes networkKey request (node aes networkKey) :=
  ⟨rfl, rfl, ⟨0, rfl⟩, rfl⟩

theorem deliver_nonceGet_eq (receiver : Transport) (answers : Answers) :
    deliver aes receiver (nonceGet request) answers =
      receiver.sendNonce request.remoteNodeId request.localNodeId answers := by
  unfold deliver Transport.applicationCommandHandler
  rfl

variable {receiver : Transport}

theorem Listening.deliver_nonceGet (listening : Listening aes networkKey request receiver)
    (noneValid : NoneValid receiver.nonceTable) {maxFrameSize : FrameSize} {answers : Answers}
    (lossless : Lossless maxFrameSize answers)
    (delivered : deliver aes receiver (nonceGet request) answers = some after) :
    ∃ nonce, newFrames receiver after = [nonceReport request nonce] ∧
      Listening aes networkKey request after ∧
      Transport.HoldsNonce after.nonceTable request.remoteNodeId request.localNodeId nonce ∧
      Transport.OnlyNonceOfByte after.nonceTable request.remoteNodeId request.localNodeId
        nonce := by
  rw [deliver_nonceGet_eq] at delivered
  unfold Transport.sendNonce at delivered
  split at delivered
  · cases delivered
  next nonce drawn =>
    rw [lossless.evicted, if_pos lossless.accepted] at delivered
    cases delivered
    obtain ⟨entry, isNonce, isValid, isOf, isEntry, only⟩ :=
      noneValid.registerNonce request.remoteNodeId request.localNodeId nonce
    refine ⟨nonce, newFrames_of_sent rfl, ?_, ⟨entry, isEntry, isValid, isOf, isNonce⟩, ?_⟩
    · exact ⟨listening.keys, listening.noPending, listening.free, listening.delivered⟩
    · intro other isOther otherValid _ _
      rw [only other isOther otherValid]
      exact isNonce

theorem exists_deliver_nonceGet (noneValid : NoneValid receiver.nonceTable)
    (maxFrameSize : FrameSize) :
    ∃ answers, Lossless maxFrameSize answers ∧
      (deliver aes receiver (nonceGet request) answers).isSome = true := by
  let answers : Answers := ⟨[.replicate 16 0], maxFrameSize, [], true⟩
  have drawn : receiver.drawNonce request.remoteNodeId request.localNodeId answers.draws =
      some (nonceOf (Vector.replicate 16 0).toList) := by
    unfold Transport.drawNonce
    rw [List.find?_cons, noneValid.getS0Nonce]
    rfl
  refine ⟨answers, ⟨rfl, rfl, rfl⟩, ?_⟩
  rw [deliver_nonceGet_eq]
  unfold Transport.sendNonce
  rw [drawn]
  rfl

end Receiver

/-! ## The encrypted frame -/

/-- What the upper layer of the receiver gets in the end. -/
def handedOver (maxFrameSize : FrameSize) (request : Transport.SendRequest) : List Delivery :=
  if request.data ≠ [] ∧ request.data.length + s0EncapHeaderLen ≤ maxFrameSize.size then
    [⟨request.remoteNodeId, request.localNodeId, request.data⟩]
  else []

/-- The receiver hands over what it should when an encrypted frame arrives, and sends
nothing. -/
def Readable (aes : BlockCipher) (maxFrameSize : FrameSize) (request : Transport.SendRequest)
    (receiver : Transport) (frame : SentFrame) : Prop :=
  ∀ answers, ∃ after, deliver aes receiver frame answers = some after ∧
    after.delivered = handedOver maxFrameSize request ∧ after.sent = receiver.sent

theorem deliver_encapsulated (aes : BlockCipher) (receiver : Transport) {frame : SentFrame}
    (isClass : frame.bytes.getD 0 0 = commandClassSecurity)
    (isCommand : frame.bytes.getD 1 0 = securityMessageEncapsulationNonceGet ∨
      frame.bytes.getD 1 0 = securityMessageEncapsulation)
    (short : frame.bytes.length ≤ zwaveMaxFrameSize)
    (answers : Answers) :
    ∃ after, deliver aes receiver frame answers = some after ∧
      after.delivered =
        (if (receiver.decryptMessage aes frame.remoteNodeId frame.localNodeId frame.bytes).1 = []
          then receiver.delivered
          else ⟨frame.remoteNodeId, frame.localNodeId,
            (receiver.decryptMessage aes frame.remoteNodeId frame.localNodeId frame.bytes).1⟩ ::
              receiver.delivered) ∧
      after.sent = receiver.sent := by
  obtain ⟨table, sessions, isState⟩ := Transport.decryptMessage_state aes receiver
    frame.remoteNodeId frame.localNodeId frame.bytes
  have notNonceGet : frame.bytes.getD 1 0 ≠ securityNonceGet := by
    rcases isCommand with isCommand | isCommand <;> rw [isCommand] <;> decide
  have notNonceReport : frame.bytes.getD 1 0 ≠ securityNonceReport := by
    rcases isCommand with isCommand | isCommand <;> rw [isCommand] <;> decide
  unfold deliver Transport.applicationCommandHandler
  rw [if_neg (Nat.not_lt.mpr short), if_neg (not_not.mpr isClass), if_neg notNonceGet,
    if_neg notNonceReport, if_pos isCommand]
  dsimp only
  split
  all_goals
    refine ⟨_, rfl, ?_⟩
    rw [isState]
    exact ⟨rfl, rfl⟩

section Encryption

variable
  {aes : BlockCipher}
  {networkKey : Block}
  {maxFrameSize : FrameSize}
  {request : Transport.SendRequest}
  {sender : Transport}

/-- The sender keeps a nonce and goes on to the first encrypted frame. -/
def withNonce (sender : Transport) (request : Transport.SendRequest) (nonce : Nonce) : Transport :=
  { sender with
    nonceTable :=
      sender.nonceTable.registerNonce request.remoteNodeId request.localNodeId false
        nonce }.blockNonce request.remoteNodeId request.localNodeId nonce

open Transport in
theorem Waiting.registerNonce_eq (waiting : Waiting aes networkKey request sender)
    (admissible : Admissible maxFrameSize request) (nonce : Nonce) (answers : Answers) :
    sender.registerNonce aes request.remoteNodeId request.localNodeId nonce answers =
      (withNonce sender request nonce).sendEncrypted aes 0 false answers := by
  have notBlocked : sender.isNonceBlocked request.remoteNodeId request.localNodeId nonce
      = false := by
    apply List.any_eq_false.mpr
    intro blocked isBlocked
    rw [waiting.notBlocked blocked isBlocked]
    exact Bool.false_ne_true
  have isLocal : cutNodeId request.localNodeId = request.localNodeId :=
    Nat.mod_eq_of_lt admissible.localNodeId
  have isRemote : cutNodeId request.remoteNodeId = request.remoteNodeId :=
    Nat.mod_eq_of_lt admissible.remoteNodeId
  have found : sender.getTxSessionByNode request.localNodeId request.remoteNodeId = some 0 := by
    unfold getTxSessionByNode findSlot slots
    apply List.find?_cons_of_pos
    rw [waiting.localNodeId, waiting.remoteNodeId, isLocal, isRemote]
    simp
  unfold registerNonce
  rw [if_neg (by rw [notBlocked]; exact Bool.false_ne_true), found]
  dsimp only
  have isState : ∀ state, (sender.txSessions 0).state = state ->
      ((withNonce sender request nonce).txSessions 0).state = state := fun _ isState => isState
  rcases waiting.state with isWaiting | isWaiting
  all_goals
    have sameState := isState _ isWaiting
    unfold withNonce at sameState ⊢
    rw [sameState]

theorem Admissible.fragment (admissible : Admissible maxFrameSize request) :
    ∃ length more,
      Transport.fragment request.data.length maxFrameSize = (length, more) ∧
      length + s0EncapHeaderLen ≤ zwaveMaxFrameSize ∧
      (request.data.length + s0EncapHeaderLen ≤ maxFrameSize.size ->
        length = request.data.length ∧ more = false) ∧
      (¬ request.data.length + s0EncapHeaderLen ≤ maxFrameSize.size -> more = true) := by
  have short := (Nat.le_min.mp admissible.fits).1
  have moreThanHeader := maxFrameSize.moreThanHeader
  unfold maxEncryptedMsgSize at short
  by_cases oneFrame : request.data.length + s0EncapHeaderLen ≤ maxFrameSize.size
  · refine ⟨_, _, Transport.fragment_one oneFrame, ?_, fun _ => ⟨rfl, rfl⟩, absurd oneFrame⟩
    unfold s0EncapHeaderLen zwaveMaxFrameSize
    omega
  · refine ⟨_, _, Transport.fragment_two (Nat.not_le.mp oneFrame), ?_,
      fun fits => absurd fits oneFrame,
      fun _ => rfl⟩
    unfold s0EncapHeaderLen at oneFrame moreThanHeader ⊢
    unfold zwaveMaxFrameSize
    omega

open Transport in
theorem Waiting.paired (waiting : Waiting aes networkKey request sender) {receiver : Transport}
    (listening : Listening aes networkKey request receiver) {nonce : Nonce}
    (holds : HoldsNonce receiver.nonceTable request.remoteNodeId request.localNodeId nonce)
    (only : OnlyNonceOfByte receiver.nonceTable request.remoteNodeId request.localNodeId nonce)
    {answers : Answers}
    (drawn : ((withNonce sender request nonce).drawNonce request.remoteNodeId request.localNodeId
      answers.draws).isSome = true)
    {entered : Transport}
    (sameKeys : entered.keys = sender.keys)
    (sameTable : entered.nonceTable = (withNonce sender request nonce).nonceTable)
    (isLocal : (entered.txSessions 0).localNodeId = request.localNodeId)
    (isRemote : (entered.txSessions 0).remoteNodeId = request.remoteNodeId) :
    Paired entered 0 answers receiver ∧ Unambiguous entered 0 receiver := by
  obtain ⟨entry, isNonce, isTaken⟩ := waiting.noneValid.getS0Nonce_registerNonce
    request.remoteNodeId request.localNodeId nonce
  have taken : entered.nonceTable.getS0Nonce (entered.txSessions 0).remoteNodeId
      (entered.txSessions 0).localNodeId none = some entry := by
    rw [sameTable, isLocal, isRemote]
    exact isTaken
  refine ⟨⟨?_, ?_, entry, taken, ?_⟩, ?_⟩
  · rw [listening.keys, sameKeys, waiting.keys]
  · unfold drawNonce at drawn ⊢
    rw [sameTable, isLocal, isRemote]
    exact drawn
  · rw [isLocal, isRemote, isNonce]
    exact holds
  · intro other isOther
    rw [taken] at isOther
    cases isOther
    rw [isLocal, isRemote, isNonce]
    exact only

open Transport in
theorem received_eq (admissible : Admissible maxFrameSize request) {receiver : Transport}
    (noPending : receiver.getRxSessionByNodes request.localNodeId request.remoteNodeId = none)
    {rxSlot : Slot} {reached : Transport}
    (isReached : reached = receiver.modifyRxSession rxSlot fun session =>
      { session with
        snode := cutNodeId request.localNodeId
        dnode := cutNodeId request.remoteNodeId
        state := .rxInit
        timeout := receiver.clockTime + clockSecond * 10 })
    {length : Nat}
    {more : Bool}
    (isFragment : fragment request.data.length maxFrameSize = (length, more))
    (seq : UInt8) :
    (reached.assemble rxSlot (frameFlags false more seq) (request.data.take length)).1 =
      if request.data.length + s0EncapHeaderLen ≤ maxFrameSize.size then request.data else [] := by
  obtain ⟨otherLength, otherMore, otherFragment, -, oneFrame, twoFrames⟩ := admissible.fragment
  rw [isFragment] at otherFragment
  cases otherFragment
  split
  next fits =>
    obtain ⟨isLength, noMore⟩ := oneFrame fits
    rw [noMore, assemble_single, isLength, List.take_length]
  next tooLong =>
    rw [twoFrames tooLong]
    exact (assemble_first noPending isReached seq _).1

open Transport in
/-- The sender sends the first encrypted frame, and the receiver can read it. -/
theorem Waiting.sendEncrypted (waiting : Waiting aes networkKey request sender)
    (admissible : Admissible maxFrameSize request) {receiver : Transport}
    (listening : Listening aes networkKey request receiver) {nonce : Nonce}
    (holds : HoldsNonce receiver.nonceTable request.remoteNodeId request.localNodeId nonce)
    (only : OnlyNonceOfByte receiver.nonceTable request.remoteNodeId request.localNodeId nonce)
    {answers : Answers} (lossless : Lossless maxFrameSize answers)
    (drawn : ((withNonce sender request nonce).drawNonce request.remoteNodeId request.localNodeId
      answers.draws).isSome = true) :
    ∃ after bytes,
      (withNonce sender request nonce).sendEncrypted aes 0 false answers = some after ∧
      newFrames sender after = [⟨request.localNodeId, request.remoteNodeId, bytes⟩] ∧
      after.queued.length = sender.queued.length + 1 ∧
      (request.data.length + s0EncapHeaderLen ≤ maxFrameSize.size -> SentAll request after) ∧
      Readable aes maxFrameSize request receiver
        ⟨request.localNodeId, request.remoteNodeId, bytes⟩ := by
  unfold Transport.sendEncrypted
  dsimp only
  generalize isEntered : ((withNonce sender request nonce).modifySession 0 fun session =>
    { session with
      state := if false = true then .encMsg2 else .encMsg
      timer := false }) = entered
  have isSession : entered.txSessions 0 = { sender.txSessions 0 with
      state := .encMsg
      timer := false } := by
    rw [← isEntered]
    rfl
  have record : entered.sent = sender.sent ∧ entered.queued = sender.queued ∧
      entered.outcomes = sender.outcomes := by
    rw [← isEntered]
    exact ⟨rfl, rfl, rfl⟩
  have isLocal : (entered.txSessions 0).localNodeId = request.localNodeId := by
    rw [isSession]
    exact waiting.localNodeId
  have isRemote : (entered.txSessions 0).remoteNodeId = request.remoteNodeId := by
    rw [isSession]
    exact waiting.remoteNodeId
  have isData : (entered.txSessions 0).data = request.data := by
    rw [isSession]
    exact waiting.data
  obtain ⟨paired, unambiguous⟩ := @Waiting.paired aes networkKey request sender waiting receiver
    listening nonce holds only answers drawn entered (by rw [← isEntered]; rfl)
    (by rw [← isEntered]; rfl) isLocal isRemote
  obtain ⟨rxSlot, isReached⟩ := rxSessionFor_new listening.noPending listening.free
  obtain ⟨length, more, fragmented, within, oneFrame, -⟩ := admissible.fragment
  have short : (request.data.take length).length ≤ maxEncryptedMsgSize :=
    Nat.le_trans (List.length_take_le' length request.data) (Nat.le_min.mp admissible.fits).1
  obtain ⟨after, bytes, table, encrypted, left, decrypted⟩ := @frame_passes aes entered 0 answers
    receiver _ rfl paired unambiguous (by rw [isSession]; exact waiting.useInclusionKey) false
    length more (by rw [isData, lossless.maxFrameSize]; exact fragmented)
    (by rw [isData]; exact short) within nofun rxSlot _ (by rw [isLocal, isRemote]; exact isReached)
    (.inl (by simp [modifyRxSession]))
  obtain ⟨isClass, isCommand, isLength⟩ := encryptMessage_frame encrypted
  obtain ⟨sameSent, sameQueue, sameOutcomes⟩ := encryptMessage_record encrypted
  rw [isData, isLocal, isRemote] at decrypted
  rw [isData] at encrypted isLength
  have isLeft : after.txSessions 0 = { sender.txSessions 0 with
      state := .encMsg
      timer := false
      data := request.data.drop length } := by
    rw [left, isData, isSession]
  rw [encrypted]
  dsimp only
  rw [sendFrame_lossless lossless, isLeft]
  refine ⟨_, bytes, rfl, ?_, ?_, ?_, ?_⟩
  · apply newFrames_of_sent
    change _ :: after.sent = _
    rw [sameSent, record.1]
    rw [waiting.localNodeId, waiting.remoteNodeId]
  · change after.queued.length + 1 = _
    rw [sameQueue, record.2.1]
  · intro fits
    have noData : request.data.drop length = [] := by
      rw [(oneFrame fits).1, List.drop_length]
    have isFinal : ∀ frame part, (((after.enqueue 0 (sender.txSessions 0).number part
        frame).modifySession 0 fun session => { session with timer := true }).txSessions 0) =
          { sender.txSessions 0 with
            state := .encMsg
            timer := true
            data := request.data.drop length } := by
      intro frame part
      change { after.txSessions 0 with timer := true } = _
      rw [isLeft]
    refine ⟨.inl ?_, ?_⟩
    · rw [isFinal]
      refine ⟨rfl, noData, waiting.payload, waiting.callback, waiting.number, ?_,
        List.cons_ne_nil _ _⟩
      exact sameOutcomes.trans (record.2.2.trans waiting.outcomes)
    · intro frame isQueued
      rcases List.mem_cons.mp isQueued with isNew | isOld
      · rw [isNew]
      · rw [sameQueue, record.2.1] at isOld
        exact waiting.queued frame isOld
  · intro answers
    have frameShort : bytes.length ≤ zwaveMaxFrameSize := by
      have taken := List.length_take_le length request.data
      omega
    obtain ⟨delivered, isDelivered, isRecord, sent⟩ := @deliver_encapsulated aes receiver
      ⟨request.localNodeId, request.remoteNodeId, bytes⟩ isClass isCommand frameShort answers
    refine ⟨delivered, isDelivered, ?_, sent⟩
    have received : (receiver.decryptMessage aes request.remoteNodeId request.localNodeId bytes).1 =
        if request.data.length + s0EncapHeaderLen ≤ maxFrameSize.size then request.data
        else [] := by
      rw [decrypted]
      exact @received_eq maxFrameSize request admissible { receiver with nonceTable := table }
        listening.noPending rxSlot _ rfl length more fragmented (entered.txSessions 0).seq
    rw [isRecord, listening.delivered]
    rw [received]
    unfold handedOver
    by_cases fits : request.data.length + s0EncapHeaderLen ≤ maxFrameSize.size
    · by_cases noData : request.data = []
      · simp [noData]
      · simp [noData, fits]
    · simp [fits]

theorem deliver_nonceReport_eq (nonce : Nonce) (answers : Answers) :
    deliver aes sender (nonceReport request nonce) answers =
      sender.registerNonce aes request.remoteNodeId request.localNodeId nonce answers := by
  have isNonce : nonceOf ((nonceReport request nonce).bytes.drop 2) = nonce := by
    have whole := nonceOf_append nonce []
    rw [List.append_nil] at whole
    exact whole
  have length : (nonceReport request nonce).bytes.length = 10 := by
    simp [nonceReport]
  unfold deliver Transport.applicationCommandHandler
  rw [length, isNonce, if_neg, if_neg, if_neg, if_pos, if_pos]
  · rfl
  · exact ⟨rfl, Nat.le_refl 10⟩
  · rfl
  · change ¬ (securityNonceReport = securityNonceGet)
    decide
  · exact fun different => different rfl
  · decide

open Transport in
theorem drawn_of_sendEncrypted (waiting : Waiting aes networkKey request sender) {nonce : Nonce}
    {answers : Answers} {after : Transport}
    (isAfter : (withNonce sender request nonce).sendEncrypted aes 0 false answers = some after) :
    ((withNonce sender request nonce).drawNonce request.remoteNodeId request.localNodeId
      answers.draws).isSome = true := by
  cases drawn : (withNonce sender request nonce).drawNonce request.remoteNodeId
      request.localNodeId answers.draws with
  | some nonce => rfl
  | none =>
    unfold sendEncrypted at isAfter
    dsimp only at isAfter
    rw [encryptMessage_eq_stuck] at isAfter
    · cases isAfter
    · rw [txSessions_modifySession]
      change (withNonce sender request nonce).drawNonce (sender.txSessions 0).remoteNodeId
        (sender.txSessions 0).localNodeId answers.draws = none
      rw [waiting.localNodeId, waiting.remoteNodeId]
      exact drawn

open Transport in
theorem Waiting.exists_drawn (waiting : Waiting aes networkKey request sender) (nonce : Nonce) :
    ∃ draws, ((withNonce sender request nonce).drawNonce request.remoteNodeId request.localNodeId
      draws).isSome = true := by
  obtain ⟨entry, isNonce, -, -, -, only⟩ := waiting.noneValid.registerNonce request.remoteNodeId
    request.localNodeId nonce
  refine ⟨[.replicate 16 (nonce.identifier + 1)], ?_⟩
  have unused : (withNonce sender request nonce).nonceTable.getS0Nonce request.remoteNodeId
      request.localNodeId (some (nonce.identifier + 1)) = none := by
    apply List.find?_eq_none.mpr
    intro other isOther isFit
    simp only [Bool.and_eq_true, Option.all_some, beq_iff_eq] at isFit
    rw [only other isOther isFit.1.1, isNonce] at isFit
    have different : nonce.identifier ≠ nonce.identifier + 1 := by simp
    exact different isFit.2
  unfold drawNonce
  simp [unused]

end Encryption

/-! ## The course of an exchange -/

section Course

variable
  (aes : BlockCipher)
  (networkKey : Block)
  (maxFrameSize : FrameSize)
  (request : Transport.SendRequest)

/-- How far an exchange has come, with the number of moves that are left: the Nonce Get, the
Nonce Report or the encrypted frame is under way, or nothing is. -/
inductive Stage : Nat -> Exchange -> Prop
  | asked
      {exchange : Exchange}
      (waiting : Waiting aes networkKey request exchange.sender)
      (listening : Listening aes networkKey request exchange.receiver)
      (noneValid : NoneValid exchange.receiver.nonceTable)
      (toReceiver : exchange.toReceiver = [nonceGet request])
      (toSender : exchange.toSender = []) :
      Stage (exchange.sender.queued.length + 4) exchange
  | answered
      {exchange : Exchange}
      {nonce : Nonce}
      (waiting : Waiting aes networkKey request exchange.sender)
      (listening : Listening aes networkKey request exchange.receiver)
      (holds : Transport.HoldsNonce exchange.receiver.nonceTable request.remoteNodeId
        request.localNodeId nonce)
      (only : Transport.OnlyNonceOfByte exchange.receiver.nonceTable request.remoteNodeId
        request.localNodeId nonce)
      (toReceiver : exchange.toReceiver = [])
      (toSender : exchange.toSender = [nonceReport request nonce]) :
      Stage (exchange.sender.queued.length + 3) exchange
  | encrypted
      {exchange : Exchange}
      {frame : SentFrame}
      (sentAll : request.data.length + s0EncapHeaderLen ≤ maxFrameSize.size ->
        SentAll request exchange.sender)
      (readable : Readable aes maxFrameSize request exchange.receiver frame)
      (delivered : exchange.receiver.delivered = [])
      (toReceiver : exchange.toReceiver = [frame])
      (toSender : exchange.toSender = []) :
      Stage (exchange.sender.queued.length + 1) exchange
  | finished
      {exchange : Exchange}
      (sentAll : request.data.length + s0EncapHeaderLen ≤ maxFrameSize.size ->
        SentAll request exchange.sender)
      (delivered : exchange.receiver.delivered = handedOver maxFrameSize request)
      (toReceiver : exchange.toReceiver = [])
      (toSender : exchange.toSender = []) :
      Stage exchange.sender.queued.length exchange

variable {aes networkKey maxFrameSize request}

theorem stage_start (admissible : Admissible maxFrameSize request) {answers : Answers}
    (lossless : Lossless maxFrameSize answers) :
    Stage aes networkKey maxFrameSize request
      ((start aes networkKey request answers).sender.queued.length + 4)
      (start aes networkKey request answers) := by
  refine .asked (waiting_start admissible lossless) listening_node
    (noneValid_node aes networkKey) ?_
    rfl
  apply newFrames_of_sent
  rw [sendData_node admissible lossless]
  rfl

theorem Stage.completes {remaining : Nat} {exchange : Exchange}
    (isStage : Stage aes networkKey maxFrameSize request remaining exchange) {frame : QueuedFrame}
    (isQueued : frame ∈ exchange.sender.queued) {status : Nat}
    (isSuccess : isTransmissionSuccessful status = true) (txInfo : Option TxInfo) :
    ∃ later, later < remaining ∧
      Stage aes networkKey maxFrameSize request later
        { exchange with sender := exchange.sender.frameCompletes frame.id status txInfo } := by
  have fewer := Transport.length_queued_frameCompletes isQueued status txInfo
  let next : Exchange :=
    { exchange with sender := exchange.sender.frameCompletes frame.id status txInfo }
  cases isStage with
  | asked waiting listening noneValid toReceiver toSender =>
    have stillWaiting := waiting.frameCompletes isQueued isSuccess txInfo
    exact ⟨_, Nat.add_lt_add_right fewer 4,
      @Stage.asked _ _ _ _ next stillWaiting listening noneValid toReceiver toSender⟩
  | answered waiting listening holds only toReceiver toSender =>
    have stillWaiting := waiting.frameCompletes isQueued isSuccess txInfo
    exact ⟨_, Nat.add_lt_add_right fewer 3,
      @Stage.answered _ _ _ _ next _ stillWaiting listening holds only toReceiver toSender⟩
  | encrypted sentAll readable delivered toReceiver toSender =>
    have stillSent := fun fits => (sentAll fits).frameCompletes isQueued isSuccess txInfo
    exact ⟨_, Nat.add_lt_add_right fewer 1,
      @Stage.encrypted _ _ _ _ next _ stillSent readable delivered toReceiver toSender⟩
  | finished sentAll delivered toReceiver toSender =>
    have stillSent := fun fits => (sentAll fits).frameCompletes isQueued isSuccess txInfo
    exact ⟨_, fewer, @Stage.finished _ _ _ _ next stillSent delivered toReceiver toSender⟩

variable {answers : Answers} {remaining : Nat} {exchange : Exchange} {frame : SentFrame}
  {after : Transport}

theorem Stage.deliverToReceiver
    (isStage : Stage aes networkKey maxFrameSize request remaining exchange)
    (underWay : frame ∈ exchange.toReceiver) (lossless : Lossless maxFrameSize answers)
    (isAfter : deliver aes exchange.receiver frame answers = some after) :
    ∃ later, later < remaining ∧
      Stage aes networkKey maxFrameSize request later
        { exchange with
          receiver := after
          toReceiver := exchange.toReceiver.erase frame
          toSender := exchange.toSender ++ newFrames exchange.receiver after } := by
  let next : Exchange :=
    { exchange with
      receiver := after
      toReceiver := exchange.toReceiver.erase frame
      toSender := exchange.toSender ++ newFrames exchange.receiver after }
  cases isStage with
  | asked waiting listening noneValid toReceiver toSender =>
    rw [toReceiver] at underWay
    cases List.mem_singleton.mp underWay
    obtain ⟨nonce, isNew, stillListening, holds, only⟩ :=
      listening.deliver_nonceGet noneValid lossless isAfter
    refine ⟨_, Nat.lt_succ_self _,
      @Stage.answered _ _ _ _ next nonce waiting stillListening holds only ?_ ?_⟩
    · change exchange.toReceiver.erase (nonceGet request) = []
      rw [toReceiver]
      exact List.erase_cons_head _ _
    · change exchange.toSender ++ newFrames exchange.receiver after = [nonceReport request nonce]
      rw [toSender, isNew]
      rfl
  | answered _ _ _ _ toReceiver | finished _ _ toReceiver =>
    rw [toReceiver] at underWay
    cases underWay
  | encrypted sentAll readable delivered toReceiver toSender =>
    rw [toReceiver] at underWay
    cases List.mem_singleton.mp underWay
    obtain ⟨reached, isReached, isDelivered, sent⟩ := readable answers
    rw [isAfter] at isReached
    cases isReached
    refine ⟨_, Nat.lt_succ_self _, @Stage.finished _ _ _ _ next sentAll isDelivered ?_ ?_⟩
    · change exchange.toReceiver.erase frame = []
      rw [toReceiver]
      exact List.erase_cons_head _ _
    · change exchange.toSender ++ newFrames exchange.receiver after = []
      rw [toSender, newFrames_of_same sent]
      rfl

theorem Stage.deliverToSender (admissible : Admissible maxFrameSize request) {remaining : Nat}
    {exchange : Exchange} (isStage : Stage aes networkKey maxFrameSize request remaining exchange)
    {frame : SentFrame} (underWay : frame ∈ exchange.toSender) {answers : Answers}
    (lossless : Lossless maxFrameSize answers) {after : Transport}
    (isAfter : deliver aes exchange.sender frame answers = some after) :
    ∃ later, later < remaining ∧
      Stage aes networkKey maxFrameSize request later
        { exchange with
          sender := after
          toReceiver := exchange.toReceiver ++ newFrames exchange.sender after
          toSender := exchange.toSender.erase frame } := by
  let next : Exchange :=
    { exchange with
      sender := after
      toReceiver := exchange.toReceiver ++ newFrames exchange.sender after
      toSender := exchange.toSender.erase frame }
  cases isStage with
  | asked _ _ _ _ toSender | encrypted _ _ _ _ toSender | finished _ _ _ toSender =>
    rw [toSender] at underWay
    cases underWay
  | @answered _ nonce waiting listening holds only toReceiver toSender =>
    rw [toSender] at underWay
    cases List.mem_singleton.mp underWay
    rw [deliver_nonceReport_eq, waiting.registerNonce_eq admissible] at isAfter
    have drawn := drawn_of_sendEncrypted waiting isAfter
    obtain ⟨reached, bytes, isReached, isNew, oneMore, sentAll, readable⟩ :=
      waiting.sendEncrypted admissible listening holds only lossless drawn
    rw [isAfter] at isReached
    cases isReached
    refine ⟨_, ?_, @Stage.encrypted _ _ _ _ next _ sentAll readable listening.delivered ?_ ?_⟩
    · change after.queued.length + 1 < exchange.sender.queued.length + 3
      omega
    · change exchange.toReceiver ++ newFrames exchange.sender after = _
      rw [toReceiver, isNew]
      rfl
    · change exchange.toSender.erase (nonceReport request nonce) = []
      rw [toSender]
      exact List.erase_cons_head _ _

theorem Stage.advances (admissible : Admissible maxFrameSize request) (remaining : Nat)
    (exchange next : Exchange)
    (isStage : Stage aes networkKey maxFrameSize request remaining exchange)
    (isMove : Move aes maxFrameSize exchange next) :
    ∃ later, later < remaining ∧ Stage aes networkKey maxFrameSize request later next := by
  cases isMove with
  | deliverToReceiver underWay lossless isAfter =>
    exact isStage.deliverToReceiver underWay lossless isAfter
  | deliverToSender underWay lossless isAfter =>
    exact isStage.deliverToSender admissible underWay lossless isAfter
  | completes isQueued isSuccess txInfo => exact isStage.completes isQueued isSuccess txInfo

theorem Stage.final (admissible : Admissible maxFrameSize request)
    (isStage : Stage aes networkKey maxFrameSize request remaining exchange)
    (noMove : ∀ next, ¬ Move aes maxFrameSize exchange next) :
    exchange.sender.queued = [] ∧
      exchange.receiver.delivered = handedOver maxFrameSize request ∧
      (request.data.length + s0EncapHeaderLen ≤ maxFrameSize.size ->
        SentAll request exchange.sender) := by
  cases isStage with
  | asked waiting listening noneValid toReceiver toSender =>
    obtain ⟨answers, lossless, isSome⟩ := @exists_deliver_nonceGet aes request _ noneValid
      maxFrameSize
    obtain ⟨after, isAfter⟩ := Option.isSome_iff_exists.mp isSome
    have underWay : nonceGet request ∈ exchange.toReceiver := by
      rw [toReceiver]
      exact List.mem_singleton_self _
    exact absurd (.deliverToReceiver underWay lossless isAfter) (noMove _)
  | @answered _ nonce waiting listening holds only toReceiver toSender =>
    obtain ⟨draws, drawn⟩ := waiting.exists_drawn nonce
    have lossless : Lossless maxFrameSize ⟨draws, maxFrameSize, [], true⟩ := ⟨rfl, rfl, rfl⟩
    obtain ⟨after, bytes, isAfter, -⟩ :=
      waiting.sendEncrypted admissible listening holds only lossless drawn
    rw [← waiting.registerNonce_eq admissible, ← deliver_nonceReport_eq] at isAfter
    have underWay : nonceReport request nonce ∈ exchange.toSender := by
      rw [toSender]
      exact List.mem_singleton_self _
    exact absurd (.deliverToSender underWay lossless isAfter) (noMove _)
  | @encrypted _ frame sentAll readable delivered toReceiver toSender =>
    have lossless : Lossless maxFrameSize ⟨[], maxFrameSize, [], true⟩ := ⟨rfl, rfl, rfl⟩
    obtain ⟨after, isAfter, -⟩ := readable ⟨[], maxFrameSize, [], true⟩
    have underWay : frame ∈ exchange.toReceiver := by
      rw [toReceiver]
      exact List.mem_singleton_self _
    exact absurd (.deliverToReceiver underWay lossless isAfter) (noMove _)
  | finished sentAll delivered toReceiver toSender =>
    refine ⟨?_, delivered, sentAll⟩
    apply List.eq_nil_iff_forall_not_mem.mpr
    intro frame isQueued
    have isSuccess : isTransmissionSuccessful transmitCompleteOk = true := rfl
    exact noMove _ (.completes isQueued isSuccess none)

theorem Stage.delivered {remaining : Nat} {exchange : Exchange}
    (isStage : Stage aes networkKey maxFrameSize request remaining exchange) :
    exchange.receiver.delivered = [] ∨
      exchange.receiver.delivered = handedOver maxFrameSize request := by
  cases isStage with
  | asked _ listening | answered _ listening => exact .inl listening.delivered
  | encrypted sentAll readable delivered toReceiver toSender => exact .inl delivered
  | finished sentAll delivered toReceiver toSender => exact .inr delivered

theorem one_frame_of_endsIn (admissible : Admissible maxFrameSize request)
    (lossless : Lossless maxFrameSize answers)
    (ends : EndsIn (Move aes maxFrameSize) (Completed request)
      (start aes networkKey request answers)) :
    request.data ≠ [] ∧ request.data.length + s0EncapHeaderLen ≤ maxFrameSize.size := by
  have started := @stage_start aes networkKey maxFrameSize request admissible answers lossless
  obtain ⟨final, reaches, isDelivered, -⟩ := ends.exists_good
  have staged : ∃ remaining, Stage aes networkKey maxFrameSize request remaining final := by
    apply invariant_of_reaches
      (fun exchange => ∃ remaining, Stage aes networkKey maxFrameSize request remaining exchange) _
      ⟨_, started⟩ reaches
    rintro exchange next ⟨remaining, isStage⟩ isMove
    obtain ⟨later, -, laterStage⟩ :=
      Stage.advances admissible remaining exchange next isStage isMove
    exact ⟨later, laterStage⟩
  obtain ⟨remaining, isStage⟩ := staged
  by_contra notHandedOver
  have nothing : handedOver maxFrameSize request = [] := if_neg notHandedOver
  have noDelivery : final.receiver.delivered = [] := by
    rcases isStage.delivered with isNothing | isHandedOver
    · exact isNothing
    · exact isHandedOver.trans nothing
  rw [noDelivery] at isDelivered
  cases isDelivered

theorem endsIn_of_one_frame (admissible : Admissible maxFrameSize request)
    (lossless : Lossless maxFrameSize answers) (nonempty : request.data ≠ [])
    (oneFrame : request.data.length + s0EncapHeaderLen ≤ maxFrameSize.size) :
    EndsIn (Move aes maxFrameSize) (Completed request) (start aes networkKey request answers) := by
  apply endsIn_of_stage (Stage aes networkKey maxFrameSize request) (Stage.advances admissible) _
    (stage_start admissible lossless)
  intro remaining exchange isStage noMove
  obtain ⟨noneQueued, isDelivered, sentAll⟩ := isStage.final admissible noMove
  refine ⟨isDelivered.trans (if_pos ⟨nonempty, oneFrame⟩), ?_⟩
  rcases (sentAll oneFrame).session with ⟨-, -, -, -, -, -, someQueued⟩ | ⟨-, reported⟩
  · exact absurd noneQueued someQueued
  · exact reported

end Course

/-- The exchange of a payload comes to an end with the payload handed over and success
reported, however its frames are delivered and completed, exactly when the payload is
not empty and fits in one frame. -/
theorem exchange_completes_iff (aes : BlockCipher) (networkKey : Block) {maxFrameSize : FrameSize}
    {request : Transport.SendRequest} (admissible : Admissible maxFrameSize request)
    {answers : Answers} (lossless : Lossless maxFrameSize answers) :
    EndsIn (Move aes maxFrameSize) (Completed request) (start aes networkKey request answers) ↔
      request.data ≠ [] ∧ request.data.length + s0EncapHeaderLen ≤ maxFrameSize.size := by
  constructor
  · exact one_frame_of_endsIn admissible lossless
  · rintro ⟨nonempty, oneFrame⟩
    exact endsIn_of_one_frame admissible lossless nonempty oneFrame

/-- A request from node 1 to node 2. -/
def requestOf (payload : List UInt8) : Transport.SendRequest :=
  ⟨.security0, false, 1, 2, payload, true, 9⟩

/-- The bytes that fit in a frame at the lower data rates. -/
def lowRateFrameSize : FrameSize := (Transport.drawing []).maxFrameSize

theorem lossless_drawing (draws : List UInt8) :
    Lossless lowRateFrameSize (Transport.drawing draws) := ⟨rfl, rfl, rfl⟩

theorem exchange_completes_short :
    EndsIn (Move Transport.plainCipher lowRateFrameSize) (Completed (requestOf [0x25, 0x01]))
      (start Transport.plainCipher (.replicate 16 7) (requestOf [0x25, 0x01])
        (Transport.drawing [])) := by
  have admissible : Admissible lowRateFrameSize (requestOf [0x25, 0x01]) :=
    ⟨rfl, rfl, rfl, by decide, by decide, by decide, by decide, by decide⟩
  apply (exchange_completes_iff Transport.plainCipher (.replicate 16 7) admissible
    (lossless_drawing [])).mpr
  exact ⟨by decide, by decide⟩

/-- A payload of two frames does not reach the upper layer of the receiver. -/
theorem not_exchange_completes_long :
    ¬ EndsIn (Move Transport.plainCipher lowRateFrameSize)
      (Completed (requestOf Transport.longPayload))
      (start Transport.plainCipher (.replicate 16 7) (requestOf Transport.longPayload)
        (Transport.drawing [])) := by
  have admissible : Admissible lowRateFrameSize (requestOf Transport.longPayload) :=
    ⟨rfl, rfl, rfl, by decide, by decide, by decide, by decide, by decide⟩
  intro ends
  exact absurd (one_frame_of_endsIn admissible (lossless_drawing []) ends).2 (by decide)

end Exchange

end S0
