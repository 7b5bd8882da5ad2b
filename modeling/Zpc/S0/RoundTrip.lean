import Zpc.S0.Effects

/-!
# Encryption and decryption of a payload

What `s0_decrypt_message` makes of the one or two frames that `s0_encrypt_message` builds
for a payload.  The two sides have the same keys, and the nonce that the sender takes for
a frame is in the table of the receiver.  The receiver needs a session for every payload,
also for one that fits in one frame.
-/

namespace S0

open Foundation

namespace Transport

theorem sequenced_bits (bits : BitVec 8) :
    (0x10#8 ||| bits &&& 0xF#8) &&& 0x10#8 ≠ 0#8 ∧
      (0x10#8 ||| bits &&& 0xF#8) &&& 0x20#8 = 0#8 ∧
        (0x10#8 ||| bits &&& 0xF#8) &&& 0xF#8 = bits &&& 0xF#8 := by
  revert bits
  decide

theorem second_bits (bits : BitVec 8) :
    (0x10#8 ||| 0x20#8 ||| bits &&& 0xF#8) &&& 0x10#8 ≠ 0#8 ∧
      (0x10#8 ||| 0x20#8 ||| bits &&& 0xF#8) &&& 0x20#8 ≠ 0#8 ∧
        (0x10#8 ||| 0x20#8 ||| bits &&& 0xF#8) &&& 0xF#8 = bits &&& 0xF#8 := by
  revert bits
  decide

variable (seq : UInt8) {transport sender receiver : Transport} {slot : Slot} {length : Nat}
  {snode dnode : NodeId} {maxFrameSize : FrameSize}

theorem frameFlags_first :
    frameFlags false true seq &&& sequencedBitMask ≠ 0 ∧
      frameFlags false true seq &&& secondFrameBitMask = 0 ∧
        frameFlags false true seq &&& 0xF = seq &&& 0xF := by
  obtain ⟨sequenced, notSecond, number⟩ := sequenced_bits seq.toBitVec
  refine ⟨?_, ?_, ?_⟩
  · exact fun same => sequenced (congrArg UInt8.toBitVec same)
  · exact UInt8.toBitVec_inj.mp notSecond
  · exact UInt8.toBitVec_inj.mp number

theorem frameFlags_second (more : Bool) (seq : UInt8) :
    frameFlags true more seq &&& sequencedBitMask ≠ 0 ∧
      frameFlags true more seq &&& secondFrameBitMask ≠ 0 ∧
        frameFlags true more seq &&& 0xF = seq &&& 0xF := by
  obtain ⟨sequenced, second, number⟩ := second_bits seq.toBitVec
  refine ⟨?_, ?_, ?_⟩
  · exact fun same => sequenced (congrArg UInt8.toBitVec same)
  · exact fun same => second (congrArg UInt8.toBitVec same)
  · exact UInt8.toBitVec_inj.mp number

variable (aes : BlockCipher)

theorem encryptMessage_eq {transport : Transport} {slot : Slot} {pass2 : Bool} {answers : Answers}
    {nonce : Nonce} {entry : NonceEntry} {session : TxSession}
    (isSession : transport.txSessions slot = session)
    (drawn : transport.drawNonce session.remoteNodeId session.localNodeId answers.draws =
      some nonce)
    (found : transport.nonceTable.getS0Nonce session.remoteNodeId session.localNodeId none =
      some entry)
    {length : Nat}
    {more : Bool}
    (fragmented : fragment session.data.length answers.maxFrameSize = (length, more))
    (within : length + s0EncapHeaderLen ≤ zwaveMaxFrameSize)
    (complete : pass2 = true -> session.data.length ≤ length) :
    ∃ after,
      transport.encryptMessage aes slot pass2 answers =
        .encrypted after
          (encapsulatedFrame aes
            (if session.useInclusionKey then transport.inclusionKeys else transport.keys)
            nonce entry.nonce (securityHeader pass2 more) session.localNodeId
            session.remoteNodeId (frameFlags pass2 more session.seq) (session.data.take length))
          (session.data.take length) ∧
      after.txSessions slot = { session with data := session.data.drop length } := by
  subst isSession
  unfold encryptMessage
  dsimp only
  rw [fragmented, drawn, found]
  dsimp only
  rw [if_neg (by omega), if_neg]
  · refine ⟨_, rfl, ?_⟩
    exact Function.update_self slot _ _
  · rintro ⟨isSecond, remains⟩
    exact remains (List.drop_eq_nil_iff.mpr (complete isSecond))

theorem decryptMessage_encapsulatedFrame {transport : Transport} {localNodeId remoteNodeId : NodeId}
    {receiversNonce : Nonce} {entry : NonceEntry}
    (found : transport.nonceTable.getS0Nonce localNodeId remoteNodeId
      (some receiversNonce.identifier) = some entry)
    (isNonce : entry.nonce = receiversNonce)
    {slot : Slot}
    {reached : Transport}
    (isReached : { transport with
      nonceTable := transport.nonceTable.useNonce localNodeId remoteNodeId entry }.rxSessionFor
        remoteNodeId localNodeId = some (slot, reached))
    (sameKeys : reached.keys = transport.keys)
    (sendersNonce : Nonce)
    (sh flags : UInt8)
    {data : List UInt8}
    (short : data.length ≤ maxEncryptedMsgSize)
    (room : (reached.rxSessions slot).state = .rxInit ∨
      (reached.rxSessions slot).msg.length + data.length ≤ maxEncryptedMsgSize) :
    transport.decryptMessage aes localNodeId remoteNodeId
        (encapsulatedFrame aes transport.keys sendersNonce receiversNonce sh remoteNodeId
          localNodeId flags data) =
      reached.assemble slot flags data := by
  have length := length_encapsulatedFrame aes transport.keys sendersNonce receiversNonce sh
    remoteNodeId localNodeId flags data
  have identifier := receiversNonceIdentifier_encapsulatedFrame aes transport.keys sendersNonce
    receiversNonce sh remoteNodeId localNodeId flags data
  have opened := openedFrame_encapsulatedFrame aes transport.keys sendersNonce receiversNonce sh
    remoteNodeId localNodeId flags data
  generalize encapsulatedFrame aes transport.keys sendersNonce receiversNonce sh remoteNodeId
    localNodeId flags data = frame at length identifier opened ⊢
  have notCut : frame.take (frame.length % 2 ^ 8) = frame := by
    apply List.take_of_length_le
    unfold maxEncryptedMsgSize at short
    unfold s0EncapHeaderLen at length
    omega
  unfold decryptMessage
  dsimp only
  rw [notCut, identifier, found, if_neg (by omega), if_neg (by omega)]
  dsimp only
  rw [isReached]
  dsimp only
  rw [sameKeys, isNonce, opened]
  have fits : ¬ ((reached.rxSessions slot).state ≠ .rxInit ∧
      maxEncryptedMsgSize <
        (reached.rxSessions slot).msg.length + frame.length - s0EncapHeaderLen) := by
    rintro ⟨notInit, tooLong⟩
    rcases room with isInit | isRoom
    · exact notInit isInit
    · omega
  rw [if_neg fits]

/-- The bytes that fit in the two frames of a payload. -/
def twoFrameCapacity (maxFrameSize : FrameSize) : Nat :=
  min maxEncryptedMsgSize (2 * (maxFrameSize.size - s0EncapHeaderLen))

/-- A nonce between two nodes is valid in a table. -/
def HoldsNonce (table : NonceTable) (src dst : NodeId) (nonce : Nonce) : Prop :=
  ∃ entry ∈ table.entries, entry.isValid = true ∧
    entry.isOf (cutNodeId src) (cutNodeId dst) = true ∧ entry.nonce = nonce

/-- No other valid nonce between two nodes starts with the same byte. -/
def OnlyNonceOfByte (table : NonceTable) (src dst : NodeId) (nonce : Nonce) : Prop :=
  ∀ entry ∈ table.entries, entry.isValid = true ->
    entry.isOf (cutNodeId src) (cutNodeId dst) = true ->
      entry.nonce.identifier = nonce.identifier ->
      entry.nonce = nonce

/-- The session of a slot can encrypt its next frame for a receiver that has the keys and
the nonce that is taken for the frame. -/
structure Paired
    (sender : Transport)
    (slot : Slot)
    (answers : Answers)
    (receiver : Transport) : Prop where
  sameKeys : receiver.keys = sender.keys
  drawn : (sender.drawNonce (sender.txSessions slot).remoteNodeId
    (sender.txSessions slot).localNodeId answers.draws).isSome = true
  taken : ∃ entry,
    sender.nonceTable.getS0Nonce (sender.txSessions slot).remoteNodeId
      (sender.txSessions slot).localNodeId none = some entry ∧
    HoldsNonce receiver.nonceTable (sender.txSessions slot).remoteNodeId
      (sender.txSessions slot).localNodeId entry.nonce

/-- The nonce that the sender takes is found by its first byte at the receiver. -/
def Unambiguous (sender : Transport) (slot : Slot) (receiver : Transport) : Prop :=
  ∀ entry,
    sender.nonceTable.getS0Nonce (sender.txSessions slot).remoteNodeId
      (sender.txSessions slot).localNodeId none = some entry ->
    OnlyNonceOfByte receiver.nonceTable (sender.txSessions slot).remoteNodeId
      (sender.txSessions slot).localNodeId entry.nonce

/-- A session that has yet to send the whole of a payload. -/
structure Carries (session : TxSession) (payload : List UInt8) : Prop where
  data : session.data = payload
  useInclusionKey : session.useInclusionKey =
    [commandClassSecurity, networkKeySet].isPrefixOf payload

/-- A session is to send the rest of its data as it was left. -/
structure Continues (before after : TxSession) : Prop where
  localNodeId : after.localNodeId = before.localNodeId
  remoteNodeId : after.remoteNodeId = before.remoteNodeId
  data : after.data = before.data
  seq : after.seq = before.seq
  useInclusionKey : after.useInclusionKey = before.useInclusionKey

/-- The session for some nodes is pending as it was left. -/
def StillPending (before after : Transport) (snode dnode : NodeId) : Prop :=
  ∀ slot, before.getRxSessionByNodes snode dnode = some slot ->
    after.getRxSessionByNodes snode dnode = some slot ∧
      after.rxSessions slot = before.rxSessions slot

theorem findSlot_eq_some_of_unique {fits : Slot -> Bool} (isFit : fits slot = true)
    (unique : ∀ other, fits other = true -> other = slot) : findSlot fits = some slot := by
  unfold findSlot
  cases found : slots.find? fits with
  | none => exact absurd isFit (List.find?_eq_none.mp found slot (mem_slots slot))
  | some other => rw [unique other (List.find?_some found)]

theorem rxSessionFor_new {transport : Transport} {snode dnode : NodeId}
    (noPending : transport.getRxSessionByNodes snode dnode = none)
    (free : ∃ slot, transport.isFree slot = true) :
    ∃ slot, transport.rxSessionFor snode dnode =
      some (slot, transport.modifyRxSession slot fun session =>
        { session with
          snode := cutNodeId snode
          dnode := cutNodeId dnode
          state := .rxInit
          timeout := transport.clockTime + clockSecond * 10 }) := by
  obtain ⟨slot, isFree⟩ := free
  unfold rxSessionFor newRxSession
  rw [noPending]
  cases found : findSlot transport.isFree with
  | none => exact absurd isFree (List.find?_eq_none.mp found slot (mem_slots slot))
  | some first => exact ⟨first, rfl⟩

theorem not_pending (noPending : transport.getRxSessionByNodes snode dnode = none) (slot : Slot) :
    (!transport.isFree slot && (transport.rxSessions slot).dnode == cutNodeId dnode &&
      (transport.rxSessions slot).snode == cutNodeId snode) = false :=
  eq_false_of_ne_true (List.find?_eq_none.mp noPending slot (mem_slots slot))

theorem getS0Nonce_of_holdsNonce {table : NonceTable} {src dst : NodeId} {nonce : Nonce}
    (holds : HoldsNonce table src dst nonce) (only : OnlyNonceOfByte table src dst nonce) :
    ∃ entry, table.getS0Nonce src dst (some nonce.identifier) = some entry ∧
      entry.nonce = nonce := by
  obtain ⟨entry, isEntry, isValid, isOf, isNonce⟩ := holds
  unfold NonceTable.getS0Nonce
  cases found : table.entries.find? fun entry =>
      entry.isValid && entry.isOf (cutNodeId src) (cutNodeId dst) &&
        (some nonce.identifier).all fun byte => entry.nonce.identifier == byte with
  | none =>
    have notFound := List.find?_eq_none.mp found entry isEntry
    simp [isValid, isOf, isNonce] at notFound
  | some other =>
    have fits := List.find?_some found
    simp only [Bool.and_eq_true, Option.all_some, beq_iff_eq] at fits
    obtain ⟨⟨otherValid, otherOf⟩, sameByte⟩ := fits
    exact ⟨other, rfl, only other (List.mem_of_find?_eq_some found) otherValid otherOf sameByte⟩

theorem assemble_single (transport : Transport) (slot : Slot) (seq : UInt8) (data : List UInt8) :
    (transport.assemble slot (frameFlags false false seq) data).1 = data := by
  have noFlags : ¬ (frameFlags false false seq &&& sequencedBitMask ≠ 0) := by
    change ¬ ((0 : UInt8) &&& 0x10 ≠ 0)
    decide
  unfold assemble
  rw [if_neg noFlags]

theorem assemble_first {transport : Transport} {snode dnode : NodeId}
    (noPending : transport.getRxSessionByNodes snode dnode = none) {slot : Slot}
    {reached : Transport}
    (isReached : reached = transport.modifyRxSession slot fun session =>
        { session with
          snode := cutNodeId snode
          dnode := cutNodeId dnode
          state := .rxInit
          timeout := transport.clockTime + clockSecond * 10 })
    (seq : UInt8)
    (data : List UInt8) :
    (reached.assemble slot (frameFlags false true seq) data).1 = [] ∧
      (reached.assemble slot (frameFlags false true seq) data).2.getRxSessionByNodes snode dnode =
        some slot ∧
      ((reached.assemble slot (frameFlags false true seq) data).2.rxSessions slot).state = .rxEnc1 ∧
      ((reached.assemble slot (frameFlags false true seq) data).2.rxSessions slot).msg = data ∧
      ((reached.assemble slot (frameFlags false true seq) data).2.rxSessions slot).seqNr =
        seq &&& 0xF := by
  obtain ⟨sequenced, notSecond, number⟩ := frameFlags_first seq
  have assembled : reached.assemble slot (frameFlags false true seq) data =
      ([], reached.modifyRxSession slot fun session =>
        { session with seqNr := seq &&& 0xF, msg := data, state := .rxEnc1 }) := by
    unfold assemble
    rw [if_pos sequenced, if_pos notSecond, number]
  rw [assembled, isReached]
  refine ⟨rfl, ?_, ?_, ?_, ?_⟩
  · apply findSlot_eq_some_of_unique
    · simp [isFree, modifyRxSession]
    · intro other isFit
      by_contra different
      have notFit := not_pending noPending other
      simp [isFree, modifyRxSession, different] at isFit notFit
      exact absurd isFit.2 (notFit isFit.1.1.1 isFit.1.1.2 isFit.1.2)
  all_goals simp [modifyRxSession]

theorem assemble_second {seq : UInt8} (isWaiting : (transport.rxSessions slot).state = .rxEnc1)
    (isNumber : (transport.rxSessions slot).seqNr = seq &&& 0xF) (more : Bool) (data : List UInt8) :
    (transport.assemble slot (frameFlags true more seq) data).1 =
      (transport.rxSessions slot).msg ++ data := by
  obtain ⟨sequenced, second, number⟩ := frameFlags_second more seq
  unfold assemble
  rw [if_pos sequenced, if_neg second, number, isNumber, if_neg]
  rintro (notWaiting | different)
  · exact notWaiting isWaiting
  · exact different rfl

theorem rxSessionFor_nonceTable (transport : Transport) (snode dnode : NodeId)
    (table : NonceTable) :
    { transport with nonceTable := table }.rxSessionFor snode dnode =
      (transport.rxSessionFor snode dnode).map fun found =>
        (found.1, { found.2 with nonceTable := table }) := by
  unfold rxSessionFor
  have samePending : { transport with nonceTable := table }.getRxSessionByNodes snode dnode =
      transport.getRxSessionByNodes snode dnode := rfl
  rw [samePending]
  cases transport.getRxSessionByNodes snode dnode with
  | some pending => rfl
  | none =>
    unfold newRxSession
    rw [Option.map_map]
    rfl

theorem rxSessionFor_withNonceTable {transport : Transport} {snode dnode : NodeId} {slot : Slot}
    {reached : Transport} (isReached : transport.rxSessionFor snode dnode = some (slot, reached))
    (table : NonceTable) :
    { transport with nonceTable := table }.rxSessionFor snode dnode =
        some (slot, { reached with nonceTable := table }) ∧
      reached.keys = transport.keys := by
  refine ⟨by rw [rxSessionFor_nonceTable, isReached]; rfl, ?_⟩
  unfold rxSessionFor at isReached
  split at isReached
  · cases isReached
    rfl
  · obtain ⟨free, -, same⟩ := Option.map_eq_some_iff.mp isReached
    cases same
    rfl

theorem frame_passes {sender : Transport} {slot : Slot} {answers : Answers} {receiver : Transport}
    {session : TxSession} (isSession : sender.txSessions slot = session)
    (paired : Paired sender slot answers receiver) (unambiguous : Unambiguous sender slot receiver)
    (networkKey : session.useInclusionKey = false) {pass2 : Bool} {length : Nat} {more : Bool}
    (fragmented : fragment session.data.length answers.maxFrameSize = (length, more))
    (short : (session.data.take length).length ≤ maxEncryptedMsgSize)
    (within : length + s0EncapHeaderLen ≤ zwaveMaxFrameSize)
    (complete : pass2 = true -> session.data.length ≤ length) {rxSlot : Slot} {reached : Transport}
    (isReached : receiver.rxSessionFor session.localNodeId session.remoteNodeId =
      some (rxSlot, reached))
    (room : (reached.rxSessions rxSlot).state = .rxInit ∨
      (reached.rxSessions rxSlot).msg.length + (session.data.take length).length ≤
        maxEncryptedMsgSize) :
    ∃ after frame table,
      sender.encryptMessage aes slot pass2 answers =
        .encrypted after frame (session.data.take length) ∧
      after.txSessions slot = { session with data := session.data.drop length } ∧
      receiver.decryptMessage aes session.remoteNodeId session.localNodeId frame =
        { reached with nonceTable := table }.assemble rxSlot
          (frameFlags pass2 more session.seq) (session.data.take length) := by
  subst isSession
  obtain ⟨nonce, drawn⟩ := Option.isSome_iff_exists.mp paired.drawn
  obtain ⟨taken, isTaken, holds⟩ := paired.taken
  obtain ⟨entry, found, isNonce⟩ := getS0Nonce_of_holdsNonce holds (unambiguous taken isTaken)
  obtain ⟨after, encrypted, left⟩ := @encryptMessage_eq aes sender slot pass2 answers nonce taken
    _ rfl drawn isTaken length more fragmented within complete
  let table := receiver.nonceTable.useNonce (sender.txSessions slot).remoteNodeId
    (sender.txSessions slot).localNodeId entry
  obtain ⟨isReachedThen, sameKeys⟩ := rxSessionFor_withNonceTable isReached table
  refine ⟨after, _, table, encrypted, left, ?_⟩
  rw [networkKey, ← paired.sameKeys]
  exact decryptMessage_encapsulatedFrame aes found isNonce isReachedThen sameKeys nonce _ _ short
    room

theorem fragment_one (fits : length + s0EncapHeaderLen ≤ maxFrameSize.size) :
    fragment length maxFrameSize = (length, false) := if_neg (by omega)

theorem fragment_two {length : Nat} {maxFrameSize : FrameSize}
    (tooLong : maxFrameSize.size < length + s0EncapHeaderLen) :
    fragment length maxFrameSize = (maxFrameSize.size - s0EncapHeaderLen, true) := if_pos tooLong

theorem decryptMessage_second_frame {before : TxSession} {maxFrameSize : FrameSize}
    {payload : List UInt8} (fits : payload.length ≤ twoFrameCapacity maxFrameSize)
    {sender : Transport} {slot : Slot}
    (continues : Continues
      { before with data := payload.drop (maxFrameSize.size - s0EncapHeaderLen) }
      (sender.txSessions slot))
    (networkKey : before.useInclusionKey = false)
    {answers : Answers}
    (sameSize : answers.maxFrameSize = maxFrameSize)
    {receiver : Transport}
    (paired : Paired sender slot answers receiver)
    (unambiguous : Unambiguous sender slot receiver)
    {rxSlot : Slot}
    (pending : receiver.getRxSessionByNodes before.localNodeId before.remoteNodeId = some rxSlot)
    (isWaiting : (receiver.rxSessions rxSlot).state = .rxEnc1)
    (isMsg : (receiver.rxSessions rxSlot).msg = payload.take (maxFrameSize.size - s0EncapHeaderLen))
    (isNumber : (receiver.rxSessions rxSlot).seqNr = before.seq &&& 0xF) :
    ∃ after frame data,
      sender.encryptMessage aes slot true answers = .encrypted after frame data ∧
      (receiver.decryptMessage aes before.remoteNodeId before.localNodeId frame).1 = payload := by
  obtain ⟨sameLocal, sameRemote, sameData, sameSeq, sameKey⟩ := continues
  obtain ⟨short, twoFrameLength⟩ := Nat.le_min.mp fits
  have moreThanHeader := maxFrameSize.moreThanHeader
  generalize isLength : maxFrameSize.size - s0EncapHeaderLen = length at *
  have rest : (payload.drop length).length + s0EncapHeaderLen ≤ maxFrameSize.size := by
    rw [List.length_drop]
    omega
  have fragmented : fragment (sender.txSessions slot).data.length answers.maxFrameSize =
      ((payload.drop length).length, false) := by
    rw [sameData, sameSize]
    exact fragment_one rest
  have whole : (sender.txSessions slot).data.take (payload.drop length).length =
      payload.drop length := by
    rw [sameData, List.take_length]
  have restShort : (payload.drop length).length ≤ maxEncryptedMsgSize := by
    rw [List.length_drop]
    omega
  have within : (payload.drop length).length + s0EncapHeaderLen ≤ zwaveMaxFrameSize := by
    unfold maxEncryptedMsgSize at restShort
    unfold s0EncapHeaderLen zwaveMaxFrameSize
    omega
  have isReached : receiver.rxSessionFor (sender.txSessions slot).localNodeId
      (sender.txSessions slot).remoteNodeId = some (rxSlot, receiver) := by
    unfold rxSessionFor
    rw [sameLocal, sameRemote, pending]
  have room : (receiver.rxSessions rxSlot).msg.length + (payload.drop length).length ≤
      maxEncryptedMsgSize := by
    rw [isMsg, ← List.length_append, List.take_append_drop]
    exact short
  obtain ⟨after, frame, table, encrypted, -, decrypted⟩ := @frame_passes aes sender slot answers
    receiver _ rfl paired unambiguous (sameKey.trans networkKey) true _ false fragmented
    (by rw [whole]; exact restShort) within
      (fun _ => Nat.le_of_eq (congrArg _ sameData)) rxSlot _ isReached
    (.inr (by rw [whole]; exact room))
  refine ⟨after, frame, _, encrypted, ?_⟩
  rw [← sameRemote, ← sameLocal, decrypted, whole]
  have assembled := @assemble_second { receiver with nonceTable := table } rxSlot
    (sender.txSessions slot).seq isWaiting (by rw [sameSeq]; exact isNumber) false
  rw [assembled]
  rw [isMsg, List.take_append_drop]

section Payload

variable
  {sender : Transport}
  {slot : Slot}
  {answers : Answers}
  {receiver : Transport}
  {payload : List UInt8}
  (carries : Carries (sender.txSessions slot) payload)
  (notKeySet : [commandClassSecurity, networkKeySet].isPrefixOf payload = false)
  (fits : payload.length ≤ twoFrameCapacity answers.maxFrameSize)
  (paired : Paired sender slot answers receiver)
  (unambiguous : Unambiguous sender slot receiver)
  (noPending : receiver.getRxSessionByNodes (sender.txSessions slot).localNodeId
    (sender.txSessions slot).remoteNodeId = none)
  (free : ∃ rxSlot, receiver.isFree rxSlot = true)

include carries notKeySet fits paired unambiguous noPending free

theorem decryptMessage_one_frame
    (oneFrame : payload.length + s0EncapHeaderLen ≤ answers.maxFrameSize.size) :
    ∃ after frame data,
      sender.encryptMessage aes slot false answers = .encrypted after frame data ∧
      (receiver.decryptMessage aes (sender.txSessions slot).remoteNodeId
        (sender.txSessions slot).localNodeId frame).1 = payload := by
  have networkKey := carries.useInclusionKey.trans notKeySet
  obtain ⟨short, -⟩ := Nat.le_min.mp fits
  obtain ⟨rxSlot, isReached⟩ := rxSessionFor_new noPending free
  have fragmented : fragment (sender.txSessions slot).data.length answers.maxFrameSize =
      (payload.length, false) := by
    rw [carries.data]
    exact fragment_one oneFrame
  have whole : (sender.txSessions slot).data.take payload.length = payload := by
    rw [carries.data, List.take_length]
  have within : payload.length + s0EncapHeaderLen ≤ zwaveMaxFrameSize := by
    unfold maxEncryptedMsgSize at short
    unfold s0EncapHeaderLen zwaveMaxFrameSize
    omega
  obtain ⟨after, frame, table, encrypted, -, decrypted⟩ := @frame_passes aes sender slot answers
    receiver _ rfl paired unambiguous networkKey false payload.length false fragmented
    (by rw [whole]; exact short) within nofun rxSlot _ isReached (by simp [modifyRxSession])
  refine ⟨after, frame, _, encrypted, ?_⟩
  rw [decrypted, assemble_single, whole]

theorem decryptMessage_first_frame
    (twoFrames : answers.maxFrameSize.size < payload.length + s0EncapHeaderLen) :
    ∃ after frame data rxSlot,
      sender.encryptMessage aes slot false answers = .encrypted after frame data ∧
      after.txSessions slot = { sender.txSessions slot with
        data := payload.drop (answers.maxFrameSize.size - s0EncapHeaderLen) } ∧
      let decrypted := receiver.decryptMessage aes (sender.txSessions slot).remoteNodeId
        (sender.txSessions slot).localNodeId frame
      decrypted.1 = [] ∧
      decrypted.2.getRxSessionByNodes (sender.txSessions slot).localNodeId
        (sender.txSessions slot).remoteNodeId = some rxSlot ∧
      (decrypted.2.rxSessions rxSlot).state = .rxEnc1 ∧
      (decrypted.2.rxSessions rxSlot).msg =
        payload.take (answers.maxFrameSize.size - s0EncapHeaderLen) ∧
      (decrypted.2.rxSessions rxSlot).seqNr = (sender.txSessions slot).seq &&& 0xF := by
  have networkKey := carries.useInclusionKey.trans notKeySet
  obtain ⟨short, -⟩ := Nat.le_min.mp fits
  obtain ⟨rxSlot, isReached⟩ := rxSessionFor_new noPending free
  have moreThanHeader := answers.maxFrameSize.moreThanHeader
  have fragmented := fragment_two twoFrames
  generalize isLength : answers.maxFrameSize.size - s0EncapHeaderLen = length at *
  have taken : (payload.take length).length ≤ maxEncryptedMsgSize :=
    Nat.le_trans (List.length_take_le' length payload) short
  have within : length + s0EncapHeaderLen ≤ zwaveMaxFrameSize := by
    unfold maxEncryptedMsgSize at short
    unfold s0EncapHeaderLen at moreThanHeader isLength twoFrames ⊢
    unfold zwaveMaxFrameSize
    omega
  rw [← carries.data] at fragmented taken
  obtain ⟨after, frame, table, encrypted, left, decrypted⟩ := @frame_passes aes sender slot
    answers receiver _ rfl paired unambiguous networkKey false length true fragmented taken within
    nofun rxSlot _ isReached (by simp [modifyRxSession])
  refine ⟨after, frame, _, rxSlot, encrypted, ?_, ?_⟩
  · rw [left, carries.data]
  · rw [carries.data] at decrypted
    rw [decrypted]
    exact @assemble_first { receiver with nonceTable := table } _ _ noPending rxSlot _ rfl _ _

/-- A payload other than a Network Key Set that fits in two frames is decrypted as it was
handed over: from its only frame, or from the second of its frames when nothing came of
the first.  The receiver has a session free for the first frame, and the session waits for
the second frame. -/
theorem decryptMessage_encryptMessage :
    ∃ between frame data received waiting,
      sender.encryptMessage aes slot false answers = .encrypted between frame data ∧
      receiver.decryptMessage aes (sender.txSessions slot).remoteNodeId
        (sender.txSessions slot).localNodeId frame = (received, waiting) ∧
      (payload.length + s0EncapHeaderLen ≤ answers.maxFrameSize.size -> received = payload) ∧
      (answers.maxFrameSize.size < payload.length + s0EncapHeaderLen ->
        received = [] ∧
          ∀ later laterAnswers laterReceiver,
            Continues (between.txSessions slot) (later.txSessions slot) ->
            laterAnswers.maxFrameSize = answers.maxFrameSize ->
            Paired later slot laterAnswers laterReceiver ->
            Unambiguous later slot laterReceiver ->
            StillPending waiting laterReceiver (sender.txSessions slot).localNodeId
              (sender.txSessions slot).remoteNodeId ->
            ∃ afterwards secondFrame rest,
              later.encryptMessage aes slot true laterAnswers =
                .encrypted afterwards secondFrame rest ∧
              (laterReceiver.decryptMessage aes (sender.txSessions slot).remoteNodeId
                (sender.txSessions slot).localNodeId secondFrame).1 = payload) := by
  by_cases oneFrame : payload.length + s0EncapHeaderLen ≤ answers.maxFrameSize.size
  · obtain ⟨after, frame, data, encrypted, decrypted⟩ := decryptMessage_one_frame aes carries
      notKeySet fits paired unambiguous noPending free oneFrame
    refine ⟨after, frame, data,
      (receiver.decryptMessage aes (sender.txSessions slot).remoteNodeId
        (sender.txSessions slot).localNodeId frame).1, _, encrypted, Prod.eta _ |>.symm,
      fun _ => decrypted, fun tooLong => ?_⟩
    exact absurd oneFrame (Nat.not_le.mpr tooLong)
  · have twoFrames := Nat.not_le.mp oneFrame
    obtain ⟨after, frame, data, rxSlot, encrypted, left, nothing, pending, isWaiting, isMsg,
      isNumber⟩ := decryptMessage_first_frame aes carries notKeySet fits paired unambiguous
        noPending free twoFrames
    refine ⟨after, frame, data,
      (receiver.decryptMessage aes (sender.txSessions slot).remoteNodeId
        (sender.txSessions slot).localNodeId frame).1, _, encrypted, Prod.eta _ |>.symm,
      fun short => absurd short oneFrame, fun _ => ⟨nothing, ?_⟩⟩
    intro later laterAnswers laterReceiver continues sameSize laterPaired laterUnambiguous
      stillPending
    obtain ⟨laterPending, sameSession⟩ := stillPending rxSlot pending
    rw [← sameSession] at isWaiting isMsg isNumber
    exact decryptMessage_second_frame aes fits (left ▸ continues)
      (carries.useInclusionKey.trans notKeySet) sameSize laterPaired laterUnambiguous laterPending
      isWaiting isMsg isNumber

end Payload

/-- Node 1 has a session with node 2, and a nonce of it. -/
def sendingNode (payload : List UInt8) : Transport :=
  let opened := run (step plainCipher) initial
    [.networkInit none, .sendData ⟨.security0, false, 1, 2, payload, true, 9⟩ (drawing [])]
  { opened with nonceTable := opened.nonceTable.registerNonce 2 1 false (.replicate 8 5) }

/-- Node 2 has sent a nonce to node 1. -/
def receivingNode : Transport :=
  run (step plainCipher) initial
    [.networkInit none,
      .frameReceived 2 1 .none [commandClassSecurity, securityNonceGet] (drawing [5])]

/-- The first of two frames from a node to node 2. -/
def firstFrameFrom (nodeId : NodeId) : List UInt8 :=
  encapsulatedFrame plainCipher initial.keys (.replicate 8 3) (.replicate 8 4)
    securityMessageEncapsulationNonceGet nodeId 2 (frameFlags false true 1) [0x20, 0x01]

/-- Node 2 has sent a nonce to node 1, and has two other payloads to complete. -/
def busyReceivingNode : Transport :=
  run (step plainCipher) receivingNode
    [.frameReceived 2 7 .none [commandClassSecurity, securityNonceGet] (drawing [4]),
      .frameReceived 2 7 .none (firstFrameFrom 7) (drawing []),
      .frameReceived 2 8 .none [commandClassSecurity, securityNonceGet] (drawing [4]),
      .frameReceived 2 8 .none (firstFrameFrom 8) (drawing [])]

/-- The nonce that node 2 has sent to node 1, in a table. -/
def sentNonce : NonceEntry := ⟨2, 1, 10, false, .replicate 8 5, 0, 0⟩

/-- A payload of two frames. -/
def longPayload : List UInt8 := 0x25 :: .replicate 29 0x01

/-- The first frame of the payload, and the sender after it. -/
def firstFrame : Option (List UInt8 × Transport) :=
  match (sendingNode longPayload).encryptMessage plainCipher firstSlot false (drawing [6]) with
  | .encrypted between frame _ => some (frame, between)
  | _ => none

/-- Node 1 after the first frame, with another nonce of node 2. -/
def laterSendingNode : Transport :=
  match firstFrame with
  | some (_, between) =>
      { between with nonceTable := between.nonceTable.registerNonce 2 1 false (.replicate 8 7) }
  | none => initial

/-- Node 2 after the first frame, with another nonce for node 1. -/
def laterReceivingNode : Transport :=
  match firstFrame with
  | some (frame, _) =>
      let waiting := (receivingNode.decryptMessage plainCipher 2 1 frame).2
      { waiting with nonceTable := waiting.nonceTable.registerNonce 2 1 false (.replicate 8 7) }
  | none => initial

theorem unambiguous_of_eq {taken : NonceEntry}
    (isTaken : sender.nonceTable.getS0Nonce (sender.txSessions 0).remoteNodeId
      (sender.txSessions 0).localNodeId none = some taken)
    (only : OnlyNonceOfByte receiver.nonceTable (sender.txSessions 0).remoteNodeId
      (sender.txSessions 0).localNodeId taken.nonce) :
    Unambiguous sender 0 receiver := by
  intro entry isEntry
  rw [isTaken] at isEntry
  cases isEntry
  exact only

theorem decryptMessage_encryptMessage_long :
    ∃ between frame data waiting,
      (sendingNode longPayload).encryptMessage plainCipher 0 false (drawing [6]) =
        .encrypted between frame data ∧
      receivingNode.decryptMessage plainCipher 2 1 frame = ([], waiting) ∧
      ∃ afterwards secondFrame rest,
        laterSendingNode.encryptMessage plainCipher 0 true (drawing [8]) =
          .encrypted afterwards secondFrame rest ∧
        (laterReceivingNode.decryptMessage plainCipher 2 1 secondFrame).1 = longPayload := by
  have carries : Carries ((sendingNode longPayload).txSessions 0) longPayload :=
    ⟨by decide +kernel, by decide +kernel⟩
  have paired : Paired (sendingNode longPayload) 0 (drawing [6]) receivingNode :=
    ⟨by decide +kernel, by decide +kernel, sentNonce, by decide +kernel, sentNonce,
      by decide +kernel⟩
  have unambiguous : Unambiguous (sendingNode longPayload) 0 receivingNode :=
    @unambiguous_of_eq _ _ sentNonce (by decide +kernel) (by unfold OnlyNonceOfByte; decide +kernel)
  obtain ⟨between, frame, data, received, waiting, encrypted, decrypted, -, twoFrames⟩ :=
    decryptMessage_encryptMessage plainCipher carries (by decide) (by decide) paired unambiguous
      (by decide +kernel) (by decide +kernel)
  have isLocal : ((sendingNode longPayload).txSessions 0).localNodeId = 1 := by decide +kernel
  have isRemote : ((sendingNode longPayload).txSessions 0).remoteNodeId = 2 := by decide +kernel
  rw [isLocal, isRemote] at decrypted twoFrames
  obtain ⟨nothing, second⟩ := twoFrames (by decide)
  rw [nothing] at decrypted
  refine ⟨between, frame, data, waiting, encrypted, decrypted, ?_⟩
  have isFirst : firstFrame = some (frame, between) := by
    unfold firstFrame firstSlot
    rw [encrypted]
  have isSender : laterSendingNode =
      { between with
        nonceTable := between.nonceTable.registerNonce 2 1 false (.replicate 8 7) } := by
    unfold laterSendingNode
    rw [isFirst]
  have isReceiver : laterReceivingNode =
      { waiting with
        nonceTable := waiting.nonceTable.registerNonce 2 1 false (.replicate 8 7) } := by
    unfold laterReceivingNode
    rw [isFirst]
    dsimp only
    rw [decrypted]
  apply second laterSendingNode (drawing [8]) laterReceivingNode
  · rw [isSender]
    exact ⟨rfl, rfl, rfl, rfl, rfl⟩
  · rfl
  · exact ⟨by decide +kernel, by decide +kernel, ⟨2, 1, 10, false, .replicate 8 7, 2, 0⟩,
      by decide +kernel, ⟨2, 1, 10, false, .replicate 8 7, 1, 0⟩, by decide +kernel⟩
  · exact @unambiguous_of_eq _ _ ⟨2, 1, 10, false, .replicate 8 7, 2, 0⟩ (by decide +kernel)
      (by unfold OnlyNonceOfByte; decide +kernel)
  · intro slot pending
    rw [isReceiver]
    exact ⟨pending, rfl⟩

/-- The frame that an encryption returns. -/
def Encryption.frame? : Encryption -> Option (List UInt8)
  | .encrypted _ frame _ => some frame
  | _ => none

/-- A receiver that waits for the second frames of two other nodes has no session for a
payload, although it has the nonce. -/
theorem decryptMessage_busyReceivingNode :
    Carries ((sendingNode [0x25, 0x01]).txSessions 0) [0x25, 0x01] ∧
      [commandClassSecurity, networkKeySet].isPrefixOf [0x25, 0x01] = false ∧
      [0x25, 0x01].length ≤ twoFrameCapacity (drawing [6]).maxFrameSize ∧
      Paired (sendingNode [0x25, 0x01]) 0 (drawing [6]) busyReceivingNode ∧
      busyReceivingNode.getRxSessionByNodes 1 2 = none ∧
      ∃ frame,
        ((sendingNode [0x25, 0x01]).encryptMessage plainCipher 0 false (drawing [6])).frame? =
          some frame ∧
        (busyReceivingNode.decryptMessage plainCipher 2 1 frame).1 = [] := by
  refine ⟨⟨by decide +kernel, by decide +kernel⟩, by decide, by decide, ?_, by decide +kernel, ?_⟩
  · exact ⟨by decide +kernel, by decide +kernel, sentNonce, by decide +kernel, sentNonce,
      by decide +kernel⟩
  · have nothing : ((sendingNode [0x25, 0x01]).encryptMessage plainCipher 0 false
        (drawing [6])).frame?.map (fun frame =>
          (busyReceivingNode.decryptMessage plainCipher 2 1 frame).1) = some [] := by
      decide +kernel
    exact Option.map_eq_some_iff.mp nothing

end Transport

end S0
