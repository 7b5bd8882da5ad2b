import Zpc.S0.Transport

/-!
# What the operations of the S0 transport do

One lemma for each operation that several results about runs rest on: which slot it
changes, what happens to the queue, and in which ways it can end.
-/

namespace S0

namespace Transport

variable (transport : Transport) (status : Nat) (txInfo : Option TxInfo) (slot other : Slot)
  (request : SendRequest) {frame : QueuedFrame} {aes : BlockCipher} {answers : Answers}
  {after : Transport}

theorem mem_slots : slot ∈ slots := by
  revert slot
  decide

theorem txSessions_modifySession (transport : Transport) (slot other : Slot)
    (change : TxSession -> TxSession) :
    (transport.modifySession slot change).txSessions other =
      if other = slot then change (transport.txSessions slot) else transport.txSessions other := by
  unfold modifySession
  dsimp only
  rw [Function.update_apply]

theorem txSessions_txDone :
    (transport.txDone slot).txSessions other =
      if other = slot then { (transport.txSessions slot).reset with state := .txDone }
      else transport.txSessions other := by
  unfold txDone
  rw [txSessions_modifySession]

theorem outcomes_txDone {transport : Transport} {slot : Slot}
    (isCalled : (transport.txSessions slot).callback = true) :
    (transport.txDone slot).outcomes =
      ⟨(transport.txSessions slot).number, (transport.txSessions slot).payload,
        (transport.txSessions slot).txCode, (transport.txSessions slot).txExtStatus,
        (transport.txSessions slot).sessionId⟩ :: transport.outcomes :=
  if_pos isCalled

theorem txSessions_txFail :
    (transport.txFail slot).txSessions other =
      if other = slot then
        { (transport.txSessions slot).reset with state := .txDone, txCode := transmitCompleteFail }
      else transport.txSessions other := by
  unfold txFail
  rw [txSessions_txDone, txSessions_modifySession, txSessions_modifySession]
  split
  · rw [if_pos rfl]
    rfl
  · rfl

theorem queued_callback : (transport.callback status txInfo slot).queued = transport.queued := by
  unfold callback encMsgSent encMsg2Sent
  dsimp only
  split
  · split
    · split <;> rfl
    · split <;> rfl
    all_goals rfl
  · rfl

/-- What sending a frame leaves alone: the nonces, the receiving sessions and the clock they are
compared with. -/
def unsent (transport : Transport) : NonceTable × (Slot -> RxSession) × Nat :=
  (transport.nonceTable, transport.rxSessions, transport.clockTime)

theorem unsent_callback : (transport.callback status txInfo slot).unsent = transport.unsent := by
  unfold callback encMsgSent encMsg2Sent
  dsimp only
  split
  · split
    · split <;> rfl
    · split <;> rfl
    all_goals rfl
  · rfl

theorem unsent_frameCompletes (id : Nat) :
    (transport.frameCompletes id status txInfo).unsent = transport.unsent := by
  unfold frameCompletes
  split
  · rfl
  · exact unsent_callback _ status txInfo _

theorem unsent_evictFrames (evicted : List Nat) :
    (transport.evictFrames evicted).unsent = transport.unsent := by
  induction evicted generalizing transport with
  | nil => rfl
  | cons id rest ih => exact (ih _).trans (unsent_frameCompletes transport _ none id)

theorem unsent_sendFrame (part : Part) (bytes : List UInt8) (answers : Answers) :
    (transport.sendFrame slot part bytes answers).unsent = transport.unsent := by
  unfold sendFrame
  split <;> exact unsent_evictFrames transport answers.evicted

theorem unsent_sendData (answers : Answers) :
    (transport.sendData request answers).unsent = transport.unsent := by
  unfold sendData
  split
  · rfl
  · split
    · rfl
    · split
      · rfl
      · split
        · rfl
        · exact unsent_sendFrame _ _ _ _ _

/-- A session notes the status of a completion. -/
def noteStatus (transport : Transport) (status : Nat) (txInfo : Option TxInfo)
    (slot : Slot) : Transport :=
  transport.modifySession slot fun session =>
    { session with
      txCode := status
      txExtStatus := txInfo.or session.txExtStatus }

theorem callback_of_success {status : Nat} (isSuccess : isTransmissionSuccessful status = true)
    (txInfo : Option TxInfo) (slot : Slot) :
    transport.callback status txInfo slot = match (transport.txSessions slot).state with
      | .encMsg => (transport.noteStatus status txInfo slot).encMsgSent slot
      | .encMsg2 => (transport.noteStatus status txInfo slot).encMsg2Sent slot
      | .nonceGet =>
        (transport.noteStatus status txInfo slot).modifySession slot fun session =>
          { session with state := .nonceGetSent, timer := true }
      | _ => transport.noteStatus status txInfo slot := by
  have isState : ((transport.noteStatus status txInfo slot).txSessions slot).state =
      (transport.txSessions slot).state := by
    unfold noteStatus
    rw [txSessions_modifySession, if_pos rfl]
  rw [← isState]
  unfold callback
  rw [if_pos isSuccess]
  rfl

theorem frameCompletes_cases (id status : Nat) (txInfo : Option TxInfo) :
    transport.frameCompletes id status txInfo = transport ∨
      ∃ frame ∈ transport.queued, frame.id = id ∧
        ∃ completed,
          completed = (transport.unqueue frame status).callback status txInfo frame.slot ∧
          transport.frameCompletes id status txInfo =
            { completed with
              disturbances :=
                if disturbs frame (transport.txSessions frame.slot)
                  (completed.txSessions frame.slot) then frame :: completed.disturbances
                else completed.disturbances } := by
  unfold frameCompletes
  cases found : transport.queued.find? fun frame => frame.id == id with
  | none => exact .inl rfl
  | some frame =>
    right
    refine ⟨frame, List.mem_of_find?_eq_some found, ?_, _, rfl, rfl⟩
    simpa using List.find?_some found

theorem frameCompletes_of_mem {transport : Transport} (isQueued : frame ∈ transport.queued)
    (status : Nat) (txInfo : Option TxInfo) :
    ∃ found ∈ transport.queued, found.id = frame.id ∧
      ∃ disturbances,
        transport.frameCompletes frame.id status txInfo =
          { (transport.unqueue found status).callback status txInfo found.slot with
            disturbances := disturbances } := by
  unfold frameCompletes
  cases found : transport.queued.find? fun other => other.id == frame.id with
  | none =>
    have notFound := List.find?_eq_none.mp found frame isQueued
    simp at notFound
  | some other =>
    refine ⟨other, List.mem_of_find?_eq_some found, ?_, _, rfl⟩
    simpa using List.find?_some found

theorem length_queued_frameCompletes {transport : Transport} (isQueued : frame ∈ transport.queued)
    (status : Nat) (txInfo : Option TxInfo) :
    (transport.frameCompletes frame.id status txInfo).queued.length < transport.queued.length := by
  obtain ⟨found, isFound, -, disturbances, isAfter⟩ := frameCompletes_of_mem isQueued status txInfo
  rw [isAfter]
  rw [queued_callback]
  apply List.length_filter_lt_length_iff_exists.mpr
  exact ⟨found, isFound, by simp⟩

theorem queued_frameCompletes {transport : Transport} {id status : Nat} {txInfo : Option TxInfo}
    (isQueued : frame ∈ (transport.frameCompletes id status txInfo).queued) :
    frame ∈ transport.queued := by
  rcases frameCompletes_cases transport id status txInfo with
    same | ⟨completedFrame, -, -, completed, isCompleted, isAfter⟩
  · rw [same] at isQueued
    exact isQueued
  · rw [isAfter, isCompleted] at isQueued
    rw [queued_callback] at isQueued
    exact (List.mem_filter.mp isQueued).1

theorem encryptMessage_cases (aes : BlockCipher) (transport : Transport) (slot : Slot)
    (pass2 : Bool) (answers : Answers) :
    transport.encryptMessage aes slot pass2 answers = .stuck ∨
      transport.encryptMessage aes slot pass2 answers = .refused transport ∨
      ∃ table length after,
        after = { transport with nonceTable := table }.modifySession slot (fun session =>
          { session with data := session.data.drop length }) ∧
        (transport.encryptMessage aes slot pass2 answers = .refused after ∨
          ∃ frame,
            transport.encryptMessage aes slot pass2 answers =
              .encrypted after frame ((transport.txSessions slot).data.take length) ∧
            (pass2 = true -> (transport.txSessions slot).data.drop length = [])) := by
  unfold encryptMessage
  dsimp only
  split
  · exact .inl rfl
  · split
    · exact .inl rfl
    · split
      · exact .inr (.inl rfl)
      · right
        right
        split
        · exact ⟨_, _, _, rfl, .inl rfl⟩
        next complete =>
          refine ⟨_, _, _, rfl, .inr ⟨_, rfl, fun isSecond => ?_⟩⟩
          by_contra remains
          exact complete ⟨isSecond, remains⟩

variable {pass2 : Bool} {data : List UInt8}

theorem encryptMessage_record {transport : Transport} {slot : Slot} {frame : List UInt8}
    (encrypted : transport.encryptMessage aes slot pass2 answers = .encrypted after frame data) :
    after.sent = transport.sent ∧ after.queued = transport.queued ∧
      after.outcomes = transport.outcomes := by
  rcases encryptMessage_cases aes transport slot pass2 answers with
    isStuck | isRefused | ⟨table, length, left, isLeft, isRefused | ⟨sentFrame, isFrame, -⟩⟩
  · rw [isStuck] at encrypted
    cases encrypted
  · rw [isRefused] at encrypted
    cases encrypted
  · rw [isRefused] at encrypted
    cases encrypted
  · rw [isFrame] at encrypted
    cases encrypted
    rw [isLeft]
    exact ⟨rfl, rfl, rfl⟩

theorem encryptMessage_eq_stuck (aes : BlockCipher) {transport : Transport} {slot : Slot}
    (notDrawn : transport.drawNonce (transport.txSessions slot).remoteNodeId
      (transport.txSessions slot).localNodeId answers.draws = none)
    (pass2 : Bool) :
    transport.encryptMessage aes slot pass2 answers = .stuck := by
  unfold encryptMessage
  dsimp only
  rw [notDrawn]
  split <;> rfl

theorem encryptMessage_frame {transport : Transport} {slot : Slot} {frame : List UInt8}
    (encrypted : transport.encryptMessage aes slot pass2 answers = .encrypted after frame data) :
    frame.getD 0 0 = commandClassSecurity ∧
      (frame.getD 1 0 = securityMessageEncapsulationNonceGet ∨
        frame.getD 1 0 = securityMessageEncapsulation) ∧
      frame.length = data.length + s0EncapHeaderLen := by
  unfold encryptMessage at encrypted
  dsimp only at encrypted
  split at encrypted
  · cases encrypted
  · split at encrypted
    · cases encrypted
    · split at encrypted
      · cases encrypted
      · split at encrypted
        · cases encrypted
        · cases encrypted
          refine ⟨rfl, ?_, length_encapsulatedFrame _ _ _ _ _ _ _ _ _⟩
          rw [encapsulatedFrame_eq]
          unfold securityHeader
          split
          · exact .inr rfl
          · split
            · exact .inl rfl
            · exact .inr rfl

/-- The slot that a request takes. -/
def takenSlot (transport : Transport) (request : SendRequest) : Option Slot :=
  if request.encapsulation ≠ .security0 ∨ request.isMulticast then none
  else if (transport.getTxSessionByNode request.localNodeId request.remoteNodeId).isSome then none
  else findSlot fun slot => (transport.txSessions slot).remoteNodeId == 0

theorem sendData_cases (transport : Transport) (request : SendRequest) (answers : Answers) :
    transport.sendData request answers = transport ∨
      ∃ slot, transport.takenSlot request = some slot ∧
        (transport.txSessions slot).remoteNodeId = 0 ∧
        transport.sendData request answers =
          (transport.openSession slot request).sendFrame slot .nonceGet
            [commandClassSecurity, securityNonceGet] answers := by
  unfold sendData takenSlot
  split
  next other => exact .inl rfl
  next isS0 =>
    split
    · exact .inl rfl
    next notMulticast =>
      split
      · exact .inl rfl
      next noSession =>
        split
        · exact .inl rfl
        next slot found =>
          right
          refine ⟨slot, ?_, ?_, rfl⟩
          · rw [if_neg (not_or.mpr ⟨isS0, notMulticast⟩), noSession]
            exact found
          · simpa using List.find?_some found

theorem txSessions_openSession_of_ne {slot other : Slot} (different : other ≠ slot)
    (request : SendRequest) :
    (transport.openSession slot request).txSessions other = transport.txSessions other := by
  unfold openSession
  rw [txSessions_modifySession, if_neg different]

theorem number_openSession :
    ((transport.openSession slot request).txSessions slot).number = some transport.accepted := by
  unfold openSession
  rw [txSessions_modifySession, if_pos rfl]

/-- The session of a slot is the new one or an old one. -/
theorem openSession_cases {transport : Transport} {slot other : Slot} {request : SendRequest}
    {number : Nat}
    (isNumber : ((transport.openSession slot request).txSessions other).number = some number) :
    (other = slot ∧ number = transport.accepted) ∨
      (transport.openSession slot request).txSessions other = transport.txSessions other ∧
        (transport.txSessions other).number = some number := by
  by_cases same : other = slot
  · rw [same, number_openSession] at isNumber
    exact .inl ⟨same, (Option.some.inj isNumber).symm⟩
  · have old := txSessions_openSession_of_ne transport same request
    exact .inr ⟨old, old ▸ isNumber⟩

/-- A new number keeps the sessions apart. -/
theorem openSession_numbers {transport : Transport} {slot : Slot} {request : SendRequest}
    (numbered : ∀ slot number, (transport.txSessions slot).number = some number ->
      number < transport.accepted)
    (apart : ∀ first second number, (transport.txSessions first).number = some number ->
      (transport.txSessions second).number = some number -> first = second) :
    (∀ slot' number, ((transport.openSession slot request).txSessions slot').number = some number ->
      number < transport.accepted + 1) ∧
    ∀ first second number,
      ((transport.openSession slot request).txSessions first).number = some number ->
      ((transport.openSession slot request).txSessions second).number = some number ->
        first = second := by
  have fresh : ∀ {other}, (transport.txSessions other).number ≠ some transport.accepted :=
    fun isNumber => Nat.lt_irrefl _ (numbered _ _ isNumber)
  constructor
  · intro other number isNumber
    rcases openSession_cases isNumber with ⟨-, isNew⟩ | ⟨-, isOld⟩
    · omega
    · exact Nat.lt_succ_of_lt (numbered other number isOld)
  · intro first second number isFirst isSecond
    rcases openSession_cases isFirst with ⟨firstHere, isNew⟩ | ⟨-, firstOld⟩ <;>
      rcases openSession_cases isSecond with ⟨secondHere, isNew'⟩ | ⟨-, secondOld⟩
    · exact firstHere.trans secondHere.symm
    · exact absurd (isNew ▸ secondOld) fresh
    · exact absurd (isNew' ▸ firstOld) fresh
    · exact apart first second number firstOld secondOld

theorem rxSessionFor_state {transport : Transport} {snode dnode : NodeId} {slot : Slot}
    {reached : Transport} (isReached : transport.rxSessionFor snode dnode = some (slot, reached)) :
    ∃ sessions, reached = { transport with rxSessions := sessions } := by
  unfold rxSessionFor newRxSession at isReached
  split at isReached
  · cases isReached
    exact ⟨_, rfl⟩
  · obtain ⟨free, -, same⟩ := Option.map_eq_some_iff.mp isReached
    cases same
    exact ⟨_, rfl⟩

theorem assemble_state (flags : UInt8) (data : List UInt8) :
    ∃ sessions,
      (transport.assemble slot flags data).2 = { transport with rxSessions := sessions } := by
  unfold assemble
  dsimp only
  split
  · split
    · exact ⟨_, rfl⟩
    · split <;> exact ⟨_, rfl⟩
  · exact ⟨_, rfl⟩

theorem decryptMessage_state (aes : BlockCipher) (transport : Transport)
    (localNodeId remoteNodeId : NodeId) (frame : List UInt8) :
    ∃ table sessions,
      (transport.decryptMessage aes localNodeId remoteNodeId frame).2 =
        { transport with nonceTable := table, rxSessions := sessions } := by
  unfold decryptMessage
  dsimp only
  split
  · exact ⟨_, _, rfl⟩
  · split
    · exact ⟨_, _, rfl⟩
    · split
      · exact ⟨_, _, rfl⟩
      · split
        · exact ⟨_, _, rfl⟩
        next slot reached isReached =>
          obtain ⟨sessions, isState⟩ := rxSessionFor_state isReached
          split
          · exact ⟨_, sessions, isState⟩
          · split
            · exact ⟨_, sessions, isState⟩
            next flags data opened =>
              obtain ⟨assembled, isAssembled⟩ := assemble_state reached slot flags data
              rw [isAssembled, isState]
              exact ⟨_, assembled, rfl⟩

theorem applicationCommandHandler_cases {transport : Transport} {localNodeId remoteNodeId : NodeId}
    {encapsulation : Encapsulation} {frame : List UInt8}
    (isAfter : transport.applicationCommandHandler aes localNodeId remoteNodeId encapsulation
      frame answers = some after) :
    after = transport ∨
      transport.sendNonce localNodeId remoteNodeId answers = some after ∨
      transport.registerNonce aes remoteNodeId localNodeId (nonceOf (frame.drop 2)) answers =
        some after ∨
      ∃ table sessions delivered,
        after = { transport with
          nonceTable := table
          rxSessions := sessions
          delivered := delivered } := by
  obtain ⟨table, sessions, isState⟩ :=
    decryptMessage_state aes transport localNodeId remoteNodeId frame
  unfold applicationCommandHandler at isAfter
  dsimp only at isAfter
  split at isAfter
  · cases isAfter
    exact .inl rfl
  · split at isAfter
    · cases isAfter
      exact .inl rfl
    · split at isAfter
      · split at isAfter
        · exact .inr (.inl isAfter)
        · cases isAfter
          exact .inl rfl
      · split at isAfter
        · split at isAfter
          · exact .inr (.inr (.inl isAfter))
          · cases isAfter
            exact .inl rfl
        · split at isAfter
          · split at isAfter
            · cases isAfter
              exact .inr (.inr (.inr ⟨table, sessions, _, isState⟩))
            · cases isAfter
              rw [isState]
              exact .inr (.inr (.inr ⟨table, sessions, _, rfl⟩))
          · cases isAfter
            exact .inl rfl

/-- A block function that leaves the block as it is. -/
def plainCipher : BlockCipher := fun _ block => block

/-- The answers of a `zwave_tx` that takes every frame, with some draws. -/
def drawing (draws : List UInt8) : Answers where
  draws := draws.map (.replicate 16)
  maxFrameSize := ⟨46, by decide, by decide⟩
  evicted := []
  accepted := true

end Transport

end S0
